import PoolArbiter.Data.KeyMap
import PoolArbiter.Text.UpperCase

/-!
# The environment

Variables by name, and how a profile chooses between two variables: the one with
the name of the profile in front if it holds something, and the plain one
otherwise. A variable that holds an empty text counts as absent.
-/

namespace PoolArbiter

/-- Variables by name. -/
abbrev Environment := KeyMap String String

namespace Environment

/-- The text of a variable, unless it is empty. -/
def filled? (environment : Environment) (name : String) : Option String :=
  (environment.find? name).filter (!·.isEmpty)

/-- The name of the profile in capitals, empty if there is none. -/
def profile (environment : Environment) : String :=
  upperCase ((environment.filled? "HASHGRID_PROFILE").getD "")

/-- The text of a variable under a profile. -/
def profiled? (environment : Environment) (profile name : String) : Option String :=
  if profile.isEmpty then environment.filled? name
  else (environment.filled? (profile ++ "_" ++ name)).or (environment.filled? name)

end Environment

end PoolArbiter
