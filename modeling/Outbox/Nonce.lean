import Outbox.Fault.Basic

/-!
# Nonces

A nonce numbers the transactions of an account.  The network says what the next one is, and
it says so in a value: a whole number, if all is well.  The value is handed on as it came, to
the log and to the callback, and only when a transaction has been sent with it is anything
computed from it --- the nonce after it (`Nonce.next`).  That is where a value which is no
number is found out.

For whole numbers, which are the only nonces that an honest network gives, the next nonce is
one more (`next_int`).
-/

namespace Outbox
namespace Nonce

/-- The complaint about a value to which one cannot be added. -/
def noSuccessor : Value → String
  | .text _ => "can only concatenate str (not \"int\") to str"
  | .list _ => "can only concatenate list (not \"int\") to list"
  | .bytes _ => "can't concat int to bytes"
  | v => s!"unsupported operand type(s) for +: '{v.typeName}' and 'int'"

/-- One more than a number. -/
def successor : Numeral → Numeral
  | .whole i => .whole (i + 1)
  | .real x => .real (x.addWhole 1)

/-- The nonce after a nonce. -/
def next (nonce : Value) : Except Fault Numeral :=
  match nonce.numeral? with
  | some n => .ok (successor n)
  | none => .error (.badType (noSuccessor nonce))

@[simp] theorem next_int (i : Int) : next (.int i) = .ok (.whole (i + 1)) := rfl

/-- There is a next nonce exactly after a number. -/
theorem next_eq_ok_iff (nonce : Value) (n : Numeral) :
    next nonce = .ok n ↔ ∃ m, nonce.numeral? = some m ∧ successor m = n := by
  unfold next
  cases nonce.numeral? with
  | none => simp
  | some m => simp

end Nonce
end Outbox
