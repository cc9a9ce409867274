/-!
# Searching a text

`occurs pattern text` decides whether the pattern stands somewhere in the text.  What it
decides is the standard relation of being an infix (`occurs_iff`), and the other facts
about it --- that more text around cannot lose an occurrence --- come from there.
-/

namespace Outbox
namespace Text

/-- The pattern stands somewhere in the text. -/
def occurs (pattern : List Char) : List Char → Bool
  | [] => pattern.isEmpty
  | c :: cs => pattern.isPrefixOf (c :: cs) || occurs pattern cs

theorem occurs_iff (pattern cs : List Char) : occurs pattern cs = true ↔ pattern <:+: cs := by
  induction cs with
  | nil => simp [occurs]
  | cons c cs ih =>
    rw [occurs, Bool.or_eq_true, ih, List.isPrefixOf_iff_prefix, List.infix_cons_iff]

/-- Text around a text keeps what stands in it. -/
theorem occurs_append {pattern cs : List Char} (before after : List Char)
    (h : occurs pattern cs = true) : occurs pattern (before ++ cs ++ after) = true := by
  rw [occurs_iff] at h ⊢
  obtain ⟨s, t, hst⟩ := h
  exact ⟨before ++ s, t ++ after, by simp [← hst, List.append_assoc]⟩

end Text
end Outbox
