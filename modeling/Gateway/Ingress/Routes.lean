import Gateway.Foundation.Json
import Gateway.State.Records

namespace Gateway
namespace Ingress

open Foundation State

/-!
# Command classes and registries

A registry assigns to each client command where it goes and what kind of
message it is.  Relayed commands also have authorization metadata.  Nothing
here depends on which commands there are.
-/

inductive RoutingClass where
  | noAuth
  | gatewayLocal
  | relayHotpath
  | backendControl
  deriving DecidableEq, Repr

def RoutingClass.asStr : RoutingClass -> String
  | .noAuth => "no_auth"
  | .gatewayLocal => "gateway_local"
  | .relayHotpath => "relay_hotpath"
  | .backendControl => "backend_control"

inductive MessageSemanticType where
  | command
  | query
  | event
  | signal
  | technical
  deriving DecidableEq, Repr

def MessageSemanticType.asStr : MessageSemanticType -> String
  | .command => "command"
  | .query => "query"
  | .event => "event"
  | .signal => "signal"
  | .technical => "technical"

structure CommandSpec where
  commandName : String
  routingClass : RoutingClass
  messageType : MessageSemanticType
  mirrorToBackend : Bool
  deriving DecidableEq, Repr

structure RelayAuthorizationEntry where
  commandName : String
  spec : RelayAuthorizationSpec
  deriving DecidableEq, Repr

structure CommandRegistry where
  commands : List CommandSpec
  relayAuthorizations : List RelayAuthorizationEntry

namespace CommandRegistry

variable (registry : CommandRegistry)

def resolveCommandSpec (commandType : String) : Option CommandSpec :=
  registry.commands.find? fun spec => spec.commandName == commandType

def resolveRelayAuthorizationSpec (commandType : String) : Option RelayAuthorizationSpec :=
  (registry.relayAuthorizations.find? fun entry => entry.commandName == commandType).map
    RelayAuthorizationEntry.spec

end CommandRegistry

end Ingress
end Gateway
