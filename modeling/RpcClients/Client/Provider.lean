import RpcClients.Client.Wrapper

/-! # The provider

The type of a unit that makes a wrapped client for each of its services. -/

namespace RpcClients

/-- The function that makes a provider. -/
def providerFunction : String := "NewProvider"

/-- The type of a provider. -/
def providerType : String := "provider"

/-- What the provider's method for a service is printed from. -/
structure ProviderMethod where
  service : String
  interface : String
  newClient : String
  wrapper : String
deriving DecidableEq, Repr

/-- What a provider is printed from. -/
structure Provider where
  httpClient : String
  newClientOptions : String
  logger : String
  interface : String
  context : String
  methods : List ProviderMethod
deriving DecidableEq, Repr

namespace Provider

def declarationLines (provider : Provider) : List String :=
  ["// NewProvider returns a new Provider.",
   "func " ++ providerFunction ++ "(",
   "logger *" ++ provider.logger ++ ",",
   "httpClient " ++ provider.httpClient ++ ",",
   ") " ++ provider.interface ++ " \x7b",
   "return &" ++ providerType ++ "\x7b",
   "logger: logger,",
   "httpClient: httpClient,",
   "\x7d",
   "\x7d",
   "",
   "type " ++ providerType ++ " struct \x7b",
   "logger *" ++ provider.logger,
   "httpClient " ++ provider.httpClient,
   "\x7d",
   ""]

def methodLines (provider : Provider) (method : ProviderMethod) : List String :=
  ["func (p *" ++ providerType ++ ") New" ++ method.service ++ "(ctx " ++ provider.context ++
     ", address string) (" ++ method.interface ++ ", error) \x7b",
   "return &" ++ method.wrapper ++ "\x7b",
   "logger: p.logger,",
   "client: " ++ method.newClient ++ "(",
   "p.httpClient.ParseAddress(address),",
   "p.httpClient,",
   provider.newClientOptions ++ "()...,",
   "),",
   "\x7d, nil",
   "\x7d",
   ""]

def lines (provider : Provider) : List String :=
  provider.declarationLines ++ provider.methods.flatMap provider.methodLines

end Provider

/-- The provider's method for a service: its interface comes from the package at `apiPath`, its client
from the one at `importPath`. -/
def Service.provided (service : Service) (apiPath importPath : String) : Resolving ProviderMethod := do
  let interface ← Resolving.qualified ⟨service.goName, apiPath⟩
  let newClient ← Resolving.qualified ⟨"New" ++ service.goName ++ "ProtobufClient", importPath⟩
  return { service := service.goName, interface, newClient, wrapper := wrapperName service.goName }

end RpcClients
