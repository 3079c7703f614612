import TilingHeader.Layout.Build
import TilingHeader.Layout.Text

namespace TilingHeader.Description

/-! A description as a whole: from its source to the text of its structs.  The
arguments of every line are read before any struct is built, so a line without
its argument list is reported ahead of all other faults. -/

def fragments (settings : Settings) (source : String) :
    Reading (List Fragment) := do
  let directives ← Logged.ofExcept (Directive.scan source)
  Fragment.build settings directives

def compile (settings : Settings) (source : String) : Reading String := do
  let pieces ← fragments settings source
  pure (layoutText pieces)

end TilingHeader.Description
