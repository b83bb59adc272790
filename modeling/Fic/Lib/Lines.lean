import Fic.Lib.Bytes

/-!
# Physical lines of a byte string

A text file is cut into physical lines that keep their terminators, so that
joining the lines gives the file back byte for byte.  `physicalLines` is that
cut; the lemmas say that it is lossless (`flatten_physicalLines`), how it acts
on a concatenation (`physicalLines_append`) and on one terminated line
(`physicalLines_line`), and which lists of lines are the lines of a content
(`LineShaped`).
-/

namespace Fic.Lib

variable {content line : Bytes} {lines : List Bytes}

def lf : UInt8 := 10

def cr : UInt8 := 13

/-- Cuts `content` behind every line feed; a last line without a line feed
is kept. -/
def physicalLines : Bytes → List Bytes
  | [] => []
  | b :: rest =>
    if b = lf then [b] :: physicalLines rest
    else
      match physicalLines rest with
      | [] => [[b]]
      | line :: lines => (b :: line) :: lines

/-- The content is empty or its last byte is a line feed: whatever follows
starts on a line of its own. -/
def EndsAtLine (content : Bytes) : Prop :=
  content = [] ∨ ∃ text, content = text ++ [lf]

@[simp] theorem physicalLines_nil : physicalLines [] = [] := rfl

theorem physicalLines_cons_lf (rest : Bytes) :
    physicalLines (lf :: rest) = [lf] :: physicalLines rest := by
  simp [physicalLines]

theorem physicalLines_eq_nil : physicalLines content = [] ↔ content = [] := by
  cases content with
  | nil => simp
  | cons b rest =>
    simp only [physicalLines, reduceCtorEq, iff_false]
    split_ifs
    · simp
    · split <;> simp

theorem flatten_physicalLines (content : Bytes) :
    (physicalLines content).flatten = content := by
  induction content with
  | nil => rfl
  | cons b rest ih =>
    simp only [physicalLines]
    split_ifs with hb
    · simp [ih]
    · split
      · rename_i hnil
        rw [physicalLines_eq_nil] at hnil
        simp [hnil]
      · rename_i line lines hcons
        rw [hcons] at ih
        simp [← ih]

/-- Skipping the first `n` lines byte by byte. -/
theorem drop_length_take_physicalLines (content : Bytes) (n : Nat) :
    content.drop (((physicalLines content).take n).map List.length).sum =
      ((physicalLines content).drop n).flatten := by
  have hsplit : content = ((physicalLines content).take n).flatten ++
      ((physicalLines content).drop n).flatten := by
    rw [← List.flatten_append, List.take_append_drop, flatten_physicalLines]
  rw [← List.length_flatten]
  generalize physicalLines content = lines at hsplit ⊢
  rw [hsplit, List.drop_left]

/-- Content behind a complete line is cut on its own. -/
theorem physicalLines_append {a b : Bytes} (h : EndsAtLine a) :
    physicalLines (a ++ b) = physicalLines a ++ physicalLines b := by
  rcases h with rfl | ⟨text, rfl⟩
  · rfl
  · induction text with
    | nil => simp [physicalLines_cons_lf]
    | cons c text ih =>
      simp only [List.cons_append, physicalLines]
      rw [ih]
      split_ifs with hc
      · rfl
      · -- the line that starts with `c` already ends inside `text ++ [lf]`
        cases hl : physicalLines (text ++ [lf]) with
        | nil => simp [physicalLines_eq_nil] at hl
        | cons line lines => rfl

theorem physicalLines_line {text rest : Bytes} (h : lf ∉ text) :
    physicalLines (text ++ lf :: rest) = (text ++ [lf]) :: physicalLines rest := by
  induction text with
  | nil => exact physicalLines_cons_lf rest
  | cons c text ih =>
    have hc : c ≠ lf := fun e => h (e ▸ List.mem_cons_self)
    have htail : lf ∉ text := fun m => h (List.mem_cons_of_mem _ m)
    simp only [List.cons_append, physicalLines, if_neg hc, ih htail]

theorem physicalLines_last {text : Bytes} (hne : text ≠ []) (h : lf ∉ text) :
    physicalLines text = [text] := by
  induction text with
  | nil => exact absurd rfl hne
  | cons c text ih =>
    have hc : c ≠ lf := fun e => h (e ▸ List.mem_cons_self)
    have htail : lf ∉ text := fun m => h (List.mem_cons_of_mem _ m)
    simp only [physicalLines, if_neg hc]
    by_cases hnil : text = []
    · simp [hnil]
    · rw [ih hnil htail]

theorem infix_of_mem_physicalLines (h : line ∈ physicalLines content) : line <:+: content := by
  rw [← flatten_physicalLines content]
  exact List.infix_of_mem_flatten h

/-! ## Lists that are the lines of a content -/

/-- Every line ends in its only line feed; the last one may have none. -/
inductive LineShaped : List Bytes → Prop
  | nil : LineShaped []
  | last {text : Bytes} (hne : text ≠ []) (hlf : lf ∉ text) : LineShaped [text]
  | cons {text : Bytes} {lines : List Bytes} (hlf : lf ∉ text) (hrest : LineShaped lines) :
      LineShaped ((text ++ [lf]) :: lines)

theorem lineShaped_physicalLines (content : Bytes) : LineShaped (physicalLines content) := by
  induction content with
  | nil => exact .nil
  | cons b rest ih =>
    simp only [physicalLines]
    split_ifs with hb
    · rw [hb]
      exact @LineShaped.cons [] _ (by simp) ih
    · have hb' : lf ≠ b := fun e => hb e.symm
      generalize physicalLines rest = lines at ih
      cases ih with
      | nil => exact .last (by simp) (by simpa using hb')
      | last hne hlf => exact .last (by simp) (by simp [hb', hlf])
      | @cons text lines hlf hrest =>
        exact @LineShaped.cons (b :: text) _ (by simp [hb', hlf]) hrest

theorem physicalLines_flatten (h : LineShaped lines) : physicalLines lines.flatten = lines := by
  induction h with
  | nil => rfl
  | last hne hlf => simpa using physicalLines_last hne hlf
  | cons hlf hrest ih =>
    rw [List.flatten_cons, List.append_assoc, List.singleton_append, physicalLines_line hlf,
      ih]

theorem lineShaped_append {a b : List Bytes}
    (ha : ∀ line ∈ a, ∃ text, lf ∉ text ∧ line = text ++ [lf]) (hb : LineShaped b) :
    LineShaped (a ++ b) := by
  induction a with
  | nil => exact hb
  | cons line a ih =>
    obtain ⟨⟨text, hlf, rfl⟩, hrest⟩ := List.forall_mem_cons.mp ha
    exact .cons hlf (ih hrest)

/-- A word without line feeds occurs in a content only within a line. -/
theorem not_infix_flatten {word : Bytes} (hword : lf ∉ word) (h : LineShaped lines)
    (hne : word ≠ []) (hlines : ∀ line ∈ lines, ¬ word <:+: line) : ¬ word <:+: lines.flatten := by
  induction h with
  | nil => simpa using hne
  | last _ _ => simpa using hlines _ List.mem_cons_self
  | @cons text lines hlf hrest ih =>
    rw [List.flatten_cons, List.append_assoc, List.singleton_append]
    intro hin
    rcases infix_append_cons hword hin with hin | hin
    · exact hlines _ List.mem_cons_self (hin.trans (List.prefix_append _ _).isInfix)
    · exact ih (fun line hline => hlines line (List.mem_cons_of_mem _ hline)) hin

theorem LineShaped.mem (h : LineShaped lines) (hline : line ∈ lines) :
    ∃ text, lf ∉ text ∧ (line = text ++ [lf] ∨ line = text) := by
  induction h with
  | nil => simp at hline
  | last hne hlf => exact ⟨_, hlf, .inr (List.mem_singleton.mp hline)⟩
  | cons hlf hrest ih =>
    rcases List.mem_cons.mp hline with rfl | hline
    · exact ⟨_, hlf, .inl rfl⟩
    · exact ih hline

/-- Lines that are rewritten to lines that are not longer, and give the same
content, are not rewritten at all. -/
theorem map_eq_of_flatten_eq {f : Bytes → Bytes}
    (hshort : ∀ line ∈ lines, (f line).length ≤ line.length)
    (h : (lines.map f).flatten = lines.flatten) : ∀ line ∈ lines, f line = line := by
  have hlength : ∀ rest : List Bytes, (∀ line ∈ rest, (f line).length ≤ line.length) →
      (rest.map f).flatten.length ≤ rest.flatten.length := by
    intro rest hrest
    induction rest with
    | nil => simp
    | cons line rest ih =>
      have hfirst := hrest line List.mem_cons_self
      have htail := ih fun x hx => hrest x (List.mem_cons_of_mem _ hx)
      simp only [List.map_cons, List.flatten_cons, List.length_append]
      omega
  induction lines with
  | nil => simp
  | cons line lines ih =>
    have hfirst := hshort line List.mem_cons_self
    have hrest : ∀ x ∈ lines, (f x).length ≤ x.length :=
      fun x hx => hshort x (List.mem_cons_of_mem _ hx)
    have htail := hlength lines hrest
    have htotal := congrArg List.length h
    simp only [List.map_cons, List.flatten_cons, List.length_append] at h htotal
    obtain ⟨hhead, hbehind⟩ := List.append_inj h (by omega)
    exact List.forall_mem_cons.mpr ⟨hhead, ih hrest hbehind⟩

/-- A line feed behind a content makes a line of its own or ends the last line. -/
theorem physicalLines_concat_lf (content : Bytes) :
    physicalLines (content ++ [lf]) = physicalLines content ++ [[lf]] ∨
      ∃ init last, physicalLines content = init ++ [last] ∧ lf ∉ last ∧
        physicalLines (content ++ [lf]) = init ++ [last ++ [lf]] := by
  have hshaped := lineShaped_physicalLines content
  have hcontent := flatten_physicalLines content
  generalize physicalLines content = lines at hshaped hcontent ⊢
  subst hcontent
  induction hshaped with
  | nil => exact .inl (physicalLines_cons_lf [])
  | @last text hne hlf =>
    rw [List.flatten_singleton, physicalLines_line hlf]
    exact .inr ⟨[], text, rfl, hlf, rfl⟩
  | cons hlf hrest ih =>
    rw [List.flatten_cons, List.append_assoc, List.append_assoc, List.singleton_append,
      physicalLines_line hlf]
    rcases ih with h | ⟨init, last, rfl, hlast, h⟩
    · exact .inl (by rw [h, List.cons_append])
    · exact .inr ⟨_ :: init, last, rfl, hlast, by rw [h, List.cons_append]⟩

theorem mem_physicalLines_concat_lf (h : line ∈ physicalLines (content ++ [lf])) :
    line = [lf] ∨ line ∈ physicalLines content ∨
      ∃ last ∈ physicalLines content, lf ∉ last ∧ line = last ++ [lf] := by
  rcases physicalLines_concat_lf content with heq | ⟨init, last, hlines, hlf, heq⟩ <;>
    rw [heq, List.mem_append, List.mem_singleton] at h
  · exact h.symm.imp_right .inl
  · rw [hlines]
    rcases h with h | rfl
    · exact .inr (.inl (List.mem_append_left _ h))
    · exact .inr (.inr ⟨last, by simp, hlf, rfl⟩)

/-- Every line of a content is still there with a line feed behind the content,
the last one perhaps with the line feed. -/
theorem mem_physicalLines_of_concat_lf (h : line ∈ physicalLines content) :
    line ∈ physicalLines (content ++ [lf]) ∨
      lf ∉ line ∧ line ++ [lf] ∈ physicalLines (content ++ [lf]) := by
  rcases physicalLines_concat_lf content with heq | ⟨init, last, hlines, hlf, heq⟩ <;> rw [heq]
  · exact .inl (List.mem_append_left _ h)
  · rw [hlines, List.mem_append, List.mem_singleton] at h
    rcases h with h | rfl
    · exact .inl (List.mem_append_left _ h)
    · exact .inr ⟨hlf, by simp⟩

end Fic.Lib
