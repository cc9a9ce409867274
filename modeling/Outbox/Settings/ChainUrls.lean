import Outbox.Association
import Outbox.Number.Literal

/-!
# The setting of chain urls

One setting lists the chains and the urls of their nodes: pieces between commas, each a
chain id, an equals sign and a url.  Blanks around pieces, ids and urls mean nothing, and
blank pieces are skipped.  A chain that is listed again keeps its place and gets the last
url.

## Why the reader works on pieces

Whether a piece is well formed does not depend on the others, and the pieces are read from
left to right, so the first bad one decides the complaint.  `parse` therefore is a fold of
`addPiece` over the pieces, and what it makes of two settings joined by a comma is what it
makes of the one followed by the other (`parseFrom_append`).
-/

namespace Outbox

/-- Why the setting of chain urls is not accepted. -/
inductive ChainUrlError where
  /-- A piece without an equals sign, or with nothing after it. -/
  | malformed (item : String)
  /-- A piece whose chain id is no whole number. -/
  | chainId (e : LiteralError)
  deriving DecidableEq

/-- The complaint about the setting. -/
def ChainUrlError.message : ChainUrlError → String
  | .malformed item =>
    "Malformed CHAIN_RPC_URLS entry: " ++ String.ofList (Text.quoted item.toList)
  | .chainId e => e.message

/-- The urls of the chains, in the order in which the chains were first listed. -/
abbrev ChainUrls := List (Int × String)

namespace ChainUrls

open Text

/-- The pieces between commas. -/
def pieces : List Char → List (List Char)
  | [] => [[]]
  | c :: cs =>
    if c = ',' then [] :: pieces cs
    else
      match pieces cs with
      | [] => [[c]]
      | piece :: rest => (c :: piece) :: rest

/-- What a piece says: nothing if it is blank, otherwise a chain and its url. -/
def readPiece (piece : List Char) : Except ChainUrlError (Option (Int × String)) :=
  let item := strip piece
  if item.isEmpty then .ok none
  else
    let url := strip ((item.dropWhile (· != '=')).drop 1)
    if !item.contains '=' || url.isEmpty then .error (.malformed (String.ofList item))
    else
      match Literal.readInteger (String.ofList (strip (item.takeWhile (· != '=')))) with
      | .error e => .error (.chainId e)
      | .ok chain => .ok (some (chain, String.ofList url))

/-- The urls with what a piece says. -/
def addPiece (urls : ChainUrls) (piece : List Char) : Except ChainUrlError ChainUrls :=
  match readPiece piece with
  | .error e => .error e
  | .ok none => .ok urls
  | .ok (some (chain, url)) => .ok (Association.put chain url urls)

/-- The urls with what a setting says. -/
def parseFrom (urls : ChainUrls) (cs : List Char) : Except ChainUrlError ChainUrls :=
  (pieces cs).foldlM addPiece urls

/-- What a setting says. -/
def parse (raw : String) : Except ChainUrlError ChainUrls := parseFrom [] raw.toList

theorem pieces_ne_nil (cs : List Char) : pieces cs ≠ [] := by
  cases cs with
  | nil => simp [pieces]
  | cons c cs =>
    unfold pieces
    split
    · simp
    · split <;> simp

/-- The pieces of two texts joined by a comma are the pieces of the one and then those of the
other. -/
theorem pieces_append_comma (cs ds : List Char) :
    pieces (cs ++ ',' :: ds) = pieces cs ++ pieces ds := by
  induction cs with
  | nil => simp [pieces]
  | cons c cs ih =>
    rw [List.cons_append, pieces, pieces, ih]
    by_cases hc : c = ','
    · simp [hc]
    · simp only [hc, if_false]
      cases h : pieces cs with
      | nil => exact absurd h (pieces_ne_nil cs)
      | cons piece rest => rfl

/-- **Two settings joined by a comma are read one after the other.** -/
theorem parseFrom_append (urls : ChainUrls) (cs ds : List Char) :
    parseFrom urls (cs ++ ',' :: ds) =
      (parseFrom urls cs).bind fun urls' => parseFrom urls' ds := by
  rw [parseFrom, pieces_append_comma, List.foldlM_append]
  rfl

end ChainUrls
end Outbox
