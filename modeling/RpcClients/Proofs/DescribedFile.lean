import RpcClients.Proofs.Resolution
import RpcClients.Proto.Describe

/-! # When a file has a descriptor

A text gives a descriptor if it can be read, if no fault was found in it and if each of its parts can be
described. -/

namespace RpcClients.Proto

open Schema

theorem parse_ok_iff {text name : String} {file : FileDescriptor} :
    parse text name = .ok file ↔
      ∃ tree, SourceTree.ofText text.toList = .ok tree ∧ tree.described name = .ok file := by
  unfold parse
  cases SourceTree.ofText text.toList <;> simp

namespace SourceTree

/-- The parts of the descriptor of a file that can fail. -/
structure Parts where
  version : String
  package : Option String
  dependencies : List String
  goPackages : List String
  messages : List MessageDescriptor
  enums : List EnumDescriptor

structure HasParts (tree : SourceTree) (file : String) (parts : Parts) : Prop where
  version : tree.language file = .ok parts.version
  package : atMostOne tree.packages = .ok parts.package
  dependencies : List.Forall₂ (fun item path => encodable item.2 = .ok path) tree.imports parts.dependencies
  goPackages : List.Forall₂ (fun codes option => encodable codes = .ok option) tree.goPackages parts.goPackages
  messages : List.Forall₂
    (fun decl message => describeMessage (parts.version = "proto3") decl.1 decl.2 = .ok message)
    tree.messages parts.messages
  enums : List.Forall₂ (fun decl enum => decl.described = .ok enum) tree.enums parts.enums

/-- The descriptor that has the given parts. -/
def assembled (tree : SourceTree) (file : String) (parts : Parts) : FileDescriptor where
  version := parts.version
  dependencies := parts.dependencies
  messages := parts.messages
  enums := parts.enums
  name := file
  package := parts.package.getD ""
  publicDependencies := importIndexes .publicly tree.imports
  weakDependencies := importIndexes .weakly tree.imports
  options := { goPackage := parts.goPackages.getLast? }
  services := tree.services.map ServiceDecl.described
  locations := tree.services.zipIdx.flatMap (serviceLocations tree.comments)

theorem described_ok_iff {tree : SourceTree} {name : String} {file : FileDescriptor} :
    tree.described name = .ok file ↔
      tree.fault = none ∧ ∃ parts, tree.HasParts name parts ∧ file = tree.assembled name parts := by
  unfold described
  cases hfault : tree.fault with
  | some fault => simp [bind, Except.bind]
  | none =>
    simp only [except_bind_ok_iff, except_pure_ok_iff, except_mapM_ok_iff, true_and]
    constructor
    · rintro ⟨version, hversion, package, hpackage, dependencies, hdependencies, goPackages, hgoPackages,
        messages, hmessages, enums, henums, rfl⟩
      exact ⟨⟨version, package, dependencies, goPackages, messages, enums⟩,
        ⟨hversion, hpackage, hdependencies, hgoPackages, hmessages, henums⟩, rfl⟩
    · rintro ⟨⟨version, package, dependencies, goPackages, messages, enums⟩, h, rfl⟩
      exact ⟨version, h.version, package, h.package, dependencies, h.dependencies, goPackages, h.goPackages,
        messages, h.messages, enums, h.enums, rfl⟩

end SourceTree

/-! ## Lines -/

def RpcDecl.unplaced (rpc : RpcDecl) : RpcDecl := { rpc with line := 0 }

def ServiceDecl.unplaced (service : ServiceDecl) : ServiceDecl :=
  { service with line := 0, rpcs := service.rpcs.map RpcDecl.unplaced }

/-- A statement without the lines that services and methods stand on. -/
def Statement.unplaced : Statement → Statement
  | .service decl => .service decl.unplaced
  | statement => statement

theorem ServiceDecl.described_unplaced (service : ServiceDecl) : service.unplaced.described = service.described := by
  unfold described unplaced
  rw [List.map_map]
  rfl

namespace SourceTree

variable {tree tree' : SourceTree}

theorem filterMap_unplaced {β : Type} {select : Statement → Option β}
    (hselect : ∀ statement : Statement, select statement.unplaced = select statement)
    (h : tree.statements.map Statement.unplaced = tree'.statements.map Statement.unplaced) :
    tree'.statements.filterMap select = tree.statements.filterMap select := by
  have hunplaced (statements : List Statement) :
      (statements.map Statement.unplaced).filterMap select = statements.filterMap select := by
    rw [List.filterMap_map]
    exact List.filterMap_congr fun statement _ => hselect statement
  rw [← hunplaced, ← h, hunplaced]

theorem services_unplaced (h : tree.statements.map Statement.unplaced = tree'.statements.map Statement.unplaced) :
    tree'.services.map ServiceDecl.described = tree.services.map ServiceDecl.described := by
  unfold services
  rw [List.map_filterMap, List.map_filterMap]
  refine filterMap_unplaced ?_ h
  intro statement
  cases statement with
  | service decl => exact congrArg some decl.described_unplaced
  | _ => rfl

/-- Trees that differ only in lines and comments have descriptors that differ only in comments. -/
theorem described_unplaced (h : tree.statements.map Statement.unplaced = tree'.statements.map Statement.unplaced)
    (hfault : tree'.fault = tree.fault) {name : String} {file : FileDescriptor}
    (hfile : tree.described name = .ok file) : ∃ locations, tree'.described name = .ok { file with locations } := by
  obtain ⟨hnone, parts, hparts, rfl⟩ := described_ok_iff.mp hfile
  have hversions : tree'.versions = tree.versions := filterMap_unplaced (by rintro ⟨⟩ <;> rfl) h
  have hpackages : tree'.packages = tree.packages := filterMap_unplaced (by rintro ⟨⟩ <;> rfl) h
  have himports : tree'.imports = tree.imports := filterMap_unplaced (by rintro ⟨⟩ <;> rfl) h
  have hgoPackages : tree'.goPackages = tree.goPackages := filterMap_unplaced (by rintro ⟨⟩ <;> rfl) h
  have hmessages : tree'.messages = tree.messages := filterMap_unplaced (by rintro ⟨⟩ <;> rfl) h
  have henums : tree'.enums = tree.enums := filterMap_unplaced (by rintro ⟨⟩ <;> rfl) h
  have hparts' : tree'.HasParts name parts :=
    { version := by
        have hversion := hparts.version
        unfold language at hversion ⊢
        rwa [hversions]
      package := by rw [hpackages]; exact hparts.package
      dependencies := by rw [himports]; exact hparts.dependencies
      goPackages := by rw [hgoPackages]; exact hparts.goPackages
      messages := by rw [hmessages]; exact hparts.messages
      enums := by rw [henums]; exact hparts.enums }
  refine ⟨(tree'.assembled name parts).locations, described_ok_iff.mpr ⟨hfault.trans hnone, parts, hparts', ?_⟩⟩
  unfold assembled
  rw [himports, services_unplaced h]

end SourceTree

end RpcClients.Proto
