import Typeflow.Infer.Chain
import Typeflow.Text.SnakeCase

set_option autoImplicit false

namespace Typeflow

structure Config where
  -- Plugins in their order, by configuration name; none means the standard chain.
  plugins : List String := []
  warningsAsErrors : Bool := false
  enabled : Option Bool := none
  -- Narrow before inference, so that inference sees the casts.
  beforeInference : Bool := false
  jobs : Int := 0
  path : String := ""

namespace Config

def narrowing (c : Config) : Bool := c.enabled.getD true

def chain (c : Config) : Except String Infer.Chain :=
  if c.plugins.isEmpty then .ok Infer.Chain.default else Infer.Chain.default.only Text.snakeCase c.plugins

end Config

end Typeflow
