/-!
# Voices

Several programs of the system do the same work and differ in the words they have for it: the shells of the two
dialects for their own commands, and the programs by the names of these commands.
-/

namespace BatchJob.Machine

/-- Whose words are used. -/
inductive Voice
  | standard
  | extended
  | program
  deriving DecidableEq, Repr

end BatchJob.Machine
