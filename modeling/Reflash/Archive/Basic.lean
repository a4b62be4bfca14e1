import Reflash.Bytes

/-!
# Archive — named entries

An archive maps names to byte strings.  An entry may be listed and still be out of reach, for
example because its bytes do not have the checksum that was noted for them.
-/

namespace Reflash

/-- Why an archive does not give out an entry. -/
inductive EntryFault where
  | missing
  /-- The entry is listed, but cannot be read. -/
  | unreadable (reason : String)
  deriving DecidableEq, Repr

def EntryFault.message : EntryFault → String
  | .missing => "specified file not found in archive"
  | .unreadable reason => reason

abbrev Archive : Type :=
  String → Except EntryFault Bytes

/-- The archive that lists each name once or several times; of these, the last one counts. -/
def Archive.ofList (entries : List (String × Except EntryFault Bytes)) : Archive :=
  fun name => (entries.reverse.lookup name).getD (.error .missing)

end Reflash
