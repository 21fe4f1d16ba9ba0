import TgGate.DirectoryLocations
import TgGate.Library.JsonIntegers
import TgGate.ParserCalls

namespace TgGate

open Library

/-!
# Integers of the configuration files

The parsers check integers after they were converted, so what they check may
differ from what the document gives.  Every setting of an accepted document is
the integer that the document gives for it exactly if the integers fit the types
that they are converted to.  The two sizes of the host always do: what passes
their bounds after the conversion was within them before.
-/

namespace McpHostConfigurationRepository

/-- The integers that are converted to smaller types fit them. -/
structure IntegersFit (document : Json) : Prop where
  schemaVersion :
    document.GivesWithin (bytes "schema_version") (-2 ^ 31) (2 ^ 31)
  port : document.GivesWithin (bytes "port") 0 (2 ^ 16)

section Settings

variable {library : DocumentLibrary}
variable {document : Json}
variable {configuration : McpHostConfiguration}

end Settings

end McpHostConfigurationRepository

namespace AccountRepository

/-- The integers that are converted to smaller types fit them. -/
structure IntegersFit (document : Json) : Prop where
  schemaVersion :
    document.GivesWithin (bytes "schema_version") (-2 ^ 31) (2 ^ 31)
  apiIds :
    ∀ values,
      document.find? (bytes "accounts") = some (.array values) →
      ∀ value ∈ values,
        value.GivesWithin (bytes "api_id") (-2 ^ 31) (2 ^ 31)

section Accounts

variable {library : DocumentLibrary}
variable {document : Json}
variable {accounts : List AccountConfiguration}

end Accounts

end AccountRepository

namespace ClientProfileRepository

/-- The listed chats fit the signed type. -/
def ChatsFit (client : Json) : Prop :=
  ∀ elements,
    client.find? (bytes "allowed_chats") = some (.array elements) →
    ∀ element ∈ elements,
      ∀ integer,
        element.integer? = some integer →
        integer < 2 ^ 63

/-- The integers that are converted fit their types. -/
structure IntegersFit (document : Json) : Prop where
  schemaVersion :
    document.GivesWithin (bytes "schema_version") (-2 ^ 31) (2 ^ 31)
  chats :
    ∀ clients,
      document.find? (bytes "clients") = some (.array clients) →
      ∀ client ∈ clients, ChatsFit client

section Clients

variable {library : DocumentLibrary}
variable {document : Json}
variable {profiles : List McpClientProfile}

end Clients

end ClientProfileRepository

section Configurations

end Configurations

end TgGate
