import TextIntake.Comment.Scanner
import TextIntake.Proofs.Text.Slice

set_option autoImplicit false

/-!
# What cutting comments leaves

Cutting spans out of a line only takes characters away.  Whatever a scan finds,
and whether or not its spans fit the line, what is left is a subsequence of it.

Main statement: `Comment.Finding.strip_sublist`.
-/

namespace TextIntake

namespace Span

theorem cut_sublist (s : Span) (line : Text) : List.Sublist (s.cut line) line := by
  unfold cut
  split
  · exact List.Sublist.refl line
  · rename_i before rest hbefore
    split
    · exact List.Sublist.refl line
    · rename_i inside after hinside
      obtain ⟨rfl, _⟩ := Text.splitAtByte?_eq_some_iff.1 hbefore
      obtain ⟨rfl, _⟩ := Text.splitAtByte?_eq_some_iff.1 hinside
      exact List.Sublist.append_left (List.sublist_append_right inside after) before

theorem cutAll_sublist (spans : List Span) (line : Text) :
    List.Sublist (cutAll spans line) line := by
  induction spans with
  | nil => exact List.Sublist.refl line
  | cons s spans ih => exact (cut_sublist s (cutAll spans line)).trans ih

end Span

theorem Comment.Finding.strip_sublist (f : Comment.Finding) (line : Text) :
    List.Sublist (f.strip line) line := by
  unfold strip
  split
  · exact Span.cutAll_sublist _ line
  · exact Span.cut_sublist _ line
  · exact List.nil_sublist line

end TextIntake
