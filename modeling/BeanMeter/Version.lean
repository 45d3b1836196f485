/-! # Version -/

namespace BeanMeter

/-- The version of the program. -/
def programVersion : String := "0.1.0"

end BeanMeter
