import Exemplar.CommandLine.ControlSequence
import Mathlib.Data.List.TakeWhile

namespace Exemplar.ControlSequence

end Exemplar.ControlSequence
