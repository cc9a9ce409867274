import Outbox.Key
import Outbox.Nonce

/-!
# The book of nonces

For every account that has sent something the book holds the nonce that comes next.  It
is advice and no more: the network decides, and when it disagrees the book is corrected.

The book is a list of entries, written in the order in which accounts first sent, and
its view is `get?`.  An account is a key, because some send for accounts that they name in
ways of their own; all others are kept under the text of their address.  For these writing an
entry changes that account and no other (`get?_put`), and nothing else about the book is ever
used.
-/

namespace Outbox

/-- The next nonce of every account that has sent. -/
structure NonceBook where
  entries : List (Key × Numeral) := []

namespace NonceBook

/-- The book before anything has been sent. -/
def empty : NonceBook := {}

/-- The next nonce of an account, if the book knows it. -/
def get? (book : NonceBook) (account : Key) : Option Numeral := Key.find? account book.entries

/-- The book with the next nonce of an account written. -/
def put (book : NonceBook) (account : Key) (next : Numeral) : NonceBook :=
  ⟨Key.put account next book.entries⟩

@[simp] theorem get?_empty (account : Key) : empty.get? account = none := rfl

/-- Writing changes the account that is written and no other, whatever the other key is. -/
theorem get?_put_key (book : NonceBook) (account : String) (other : Key) (next : Numeral) :
    (book.put (.ofText account) next).get? other =
      if (Key.ofText account).same other then some next else book.get? other :=
  Key.find?_put account other next book.entries

/-- **Writing changes the account that is written and no other.** -/
@[simp] theorem get?_put (book : NonceBook) (account other : String) (next : Numeral) :
    (book.put (.ofText account) next).get? (.ofText other) =
      if other = account then some next else book.get? (.ofText other) :=
  Key.find?_put_ofText account other next book.entries

end NonceBook
end Outbox
