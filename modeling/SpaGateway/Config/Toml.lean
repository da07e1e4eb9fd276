import SpaGateway.Config.Decode
import SpaGateway.Toml.Parser

/-!
# The configuration in TOML

The configuration file is a TOML document whose keys are the fields of the configuration.
-/

namespace SpaGateway

/-- Reads a configuration from the text of a configuration file. -/
def GatewayConfig.ofToml? (text : String) : Option GatewayConfig := do
  GatewayConfig.ofDatum? Toml.format (← Toml.parse? text)

end SpaGateway
