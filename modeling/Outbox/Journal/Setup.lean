import Outbox.Fault.Basic

/-!
# Setting up the journal

All channels hang from one root.  Whoever asks for a channel first gives the root its
one handler and its level; later ones find the handler there and leave both alone.  A
name that does not belong to the root is put under it.

## What the level setting may name

The setting is a word, and the words that mean something are the ten in `levelWords`.
Eight of them are levels.  The other two name things that are no levels, and the root
refuses them --- when it already has its handler.  A word that names nothing stands for
the level of ordinary information.
-/

namespace Outbox
namespace Journal

/-- The name of the root. -/
def rootName : String := "txdispatch"

/-- How a line is laid out. -/
def lineFormat : String := "%(asctime)s %(levelname)s [%(name)s] %(message)s"

/-- The level of ordinary information. -/
def ordinaryLevel : Nat := 20

/-- What a word of the level setting names: a level, or something that is none, with the
complaint about it. -/
def levelWords : List (String × Except Fault Nat) :=
  [("NOTSET", .ok 0), ("DEBUG", .ok 10), ("INFO", .ok 20), ("WARN", .ok 30), ("WARNING", .ok 30),
   ("ERROR", .ok 40), ("CRITICAL", .ok 50), ("FATAL", .ok 50),
   ("BASIC_FORMAT",
    .error (.badValue "Unknown level: '%(levelname)s:%(name)s:%(message)s'")),
   ("_STYLES",
    .error (.badType ("Level not an integer or a valid string: \x7b" ++
      "'%': (<class 'logging.PercentStyle'>, '%(levelname)s:%(name)s:%(message)s'), " ++
      "'\x7b': (<class 'logging.StrFormatStyle'>, '\x7blevelname\x7d:\x7bname\x7d:\x7bmessage\x7d'), " ++
      "'$': (<class 'logging.StringTemplateStyle'>, " ++
      "'$\x7blevelname\x7d:$\x7bname\x7d:$\x7bmessage\x7d')\x7d")))]

/-- What a word of the level setting stands for. -/
def levelNamed (word : String) : Except Fault Nat :=
  (levelWords.lookup word).getD (.ok ordinaryLevel)

/-- The root: the layouts of its handlers, and its level. -/
structure Root where
  handlers : List String := []
  level : Nat := 0
  deriving DecidableEq

/-- The root before anyone has asked for a channel. -/
def Root.fresh : Root := {}

/-- Gives the root its handler and its level, unless it has a handler.  The handler comes
first, and stays even if the level is refused. -/
def configure (word : String) (root : Root) : Except Fault Unit × Root :=
  if root.handlers.isEmpty then
    let handled := { root with handlers := [lineFormat] }
    match levelNamed word with
    | .ok level => (.ok (), { handled with level })
    | .error e => (.error e, handled)
  else (.ok (), root)

/-- The full name of a channel. -/
def fullName (name : String) : String :=
  if name = rootName || (rootName ++ ".").toList.isPrefixOf name.toList then name
  else rootName ++ "." ++ name

/-- The full name of a channel whose name is given as a value, which has to be a text. -/
def fullNameOf : Value → Except Fault String
  | .text name => .ok (fullName name)
  | .bytes _ => .error (.badType "startswith first arg must be bytes or a tuple of bytes, not str")
  | v => .error (.noAttribute v.typeName "startswith")

/-- Asks for a channel: its full name, and the root afterwards.  The root is set up before the
name is looked at. -/
def channel (word : String) (name : Value) (root : Root) : Except Fault String × Root :=
  match configure word root with
  | (.ok (), root) => (fullNameOf name, root)
  | (.error e, root) => (.error e, root)

/-- Asks for channels one after another. -/
def channels (word : String) : List Value → Root → List (Except Fault String × Root)
  | [], _ => []
  | name :: names, root =>
    let step := channel word name root
    step :: channels word names step.2

/-- A root with a handler is left alone. -/
theorem configure_of_handlers {word : String} {root : Root} (h : root.handlers ≠ []) :
    configure word root = (.ok (), root) := by
  simp [configure, h]

end Journal
end Outbox
