/-! # The version of the program -/

namespace FormIntake

def version : String := "0.1.0"

end FormIntake
