import Sleepypods.Library.Text
import Sleepypods.Lifecycle.WakeAcceptance

/-! Recording a failed attempt. The triggers forget the failure of a row that becomes deleting, so
the transaction that ends a wake writes its failure columns only after the change of state. -/

set_option autoImplicit false

namespace Sleepypods.Lifecycle

open Library Library.Fallible Store MaterializationRow

namespace Sample

open Store.Sample

end Sample

end Sleepypods.Lifecycle
