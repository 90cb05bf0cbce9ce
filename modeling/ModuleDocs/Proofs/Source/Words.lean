import ModuleDocs.Proofs.Source.Lexing
import ModuleDocs.Proofs.Text.Compatibility
import ModuleDocs.Source.Grammar.Parameters

/-!
# Names in source texts

Every name in a stream of tokens is a word: it is not empty, and has nothing but letters, digits, underscores and
characters above ASCII. So is its normal form, which is the name that declarations keep.
-/

namespace ModuleDocs.Source

open Compatibility (High Unmarked)

def Token.IsWord (t : Token) : Prop :=
  t.kind = .name → t.text.toList ≠ [] ∧ ∀ c ∈ t.text.toList, High c.toNat

theorem Token.IsWord.identifier {t : Token} (h : t.IsWord) (hname : t.kind = .name) :
    Unmarked (Grammar.Token.identifier t) :=
  Compatibility.normalize_unmarked (h hname).1 (h hname).2

def Worded (tokens : Array Token) : Prop := ∀ t ∈ tokens, t.IsWord

namespace Lexer

theorem isWordChar_high {c : Char} (h : Numeral.isWordChar c = true) : High c.toNat := by
  have hbound : ∀ d : Char, High d.toNat → c.val ≥ d.val → High c.toNat := by
    intro d hd hc
    exact Nat.lt_of_lt_of_le hd (UInt32.le_iff_toNat_le.mp hc)
  change ((((c.isUpper || c.isLower) || c.isDigit) || c == '_') || decide (128 ≤ c.toNat)) = true at h
  simp only [Bool.or_eq_true, decide_eq_true_eq, beq_iff_eq] at h
  rcases h with (((h | h) | h) | rfl) | h
  · exact hbound 'A' (by decide) (of_decide_eq_true h).1
  · exact hbound 'a' (by decide) (of_decide_eq_true (Bool.and_eq_true_iff.mp h).1)
  · exact hbound '0' (by decide) (of_decide_eq_true (Bool.and_eq_true_iff.mp h).1)
  · decide
  · exact Nat.lt_of_lt_of_le (by decide) h

theorem worded_invariant : Invariant fun s => Worded s.tokens where
  moved h htokens _ := by
    rw [Worded, htokens]
    exact h
  pushed h htakes := by
    intro t ht
    rcases Array.mem_push.mp ht with ht | rfl
    · exact h t ht
    · intro hname
      obtain ⟨htext, hword⟩ := htakes.word hname
      rw [String.toList_ofList]
      exact ⟨htext, fun c hc => isWordChar_high (hword c hc)⟩

end Lexer

theorem TokenStream.ofText_worded (kind : TextKind) (line : Nat) (source : List Char) :
    Worded (TokenStream.ofText kind line source).tokens := by
  have hempty : Worded #[] := fun t ht => absurd ht (Array.not_mem_empty t)
  obtain ⟨s, hs, htokens⟩ := TokenStream.ofText_endsIn Lexer.worded_invariant kind line source hempty
  rw [htokens]
  exact hs

end ModuleDocs.Source
