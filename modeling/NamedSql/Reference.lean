import NamedSql.Text.Basic
import NamedSql.Text.CharClass

/-! # References

A reference is the marker followed by a name, the longest run of word characters after it. They are
found by searching for a pattern of two branches, a run of two or more markers or one marker with a
name (`matchHere?`), at the leftmost place where one of them matches (`search?`). A run is no
reference: it is passed over as a whole, and the search starts anew where it ends. So in a cast
`x::date` no marker starts a reference, and neither does one that no word character follows.

`Reference.first?` searches a text for its first reference and splits it there. `Reference.next?`
searches a text from a byte offset on and gives the place, and `Reference.spans?` lists the places
of all references by resuming where the one before it ends; what it lists are the places where
`first?` splits the text (`spans?_eq`).

Nothing in front of the text that is read matters, so a scan that resumes after a reference sees
what a scan of the remaining text alone would see. -/

namespace NamedSql

/-- A text split at its first reference. -/
structure Reference where
  /-- The text in front of the marker. -/
  lead : Text
  /-- The name, without the marker. -/
  name : Text
  /-- The text after the name. -/
  tail : Text
  deriving DecidableEq

namespace Reference

/-- Puts one more character in front. -/
def cons (c : Char) (r : Reference) : Reference := { r with lead := c :: r.lead }

/-- Puts more text in front. -/
def prepend (front : Text) (r : Reference) : Reference := { r with lead := front ++ r.lead }

/-! ### The search -/

/-- A text split at a match of the pattern, with the branch that has matched. -/
inductive Match where
  /-- Two or more markers. -/
  | run (lead markers tail : Text)
  /-- A marker with a name. -/
  | reference (r : Reference)
  deriving DecidableEq

namespace Match

/-- Puts one more character in front. -/
def cons (c : Char) : Match → Match
  | run lead markers tail => run (c :: lead) markers tail
  | reference r => reference (r.cons c)

/-- The text that is split. -/
def text (marker : Char) : Match → Text
  | run lead markers tail => lead ++ (markers ++ tail)
  | reference r => r.lead ++ marker :: (r.name ++ r.tail)

/-- What the branch asks of the text that it matches: a run goes on as long as there are markers, a
name as long as there are word characters. -/
def Maximal (marker : Char) : Match → Prop
  | run _ markers tail =>
    2 ≤ markers.length ∧ (∀ c ∈ markers, c = marker) ∧ tail.head? ≠ some marker
  | reference r => r.name ≠ [] ∧ r.name = (r.name ++ r.tail).takeWhile isWord

end Match

/-- The match at the start of a text. The branch of the runs is tried first. -/
def matchHere? (marker : Char) : Text → Option Match
  | [] => none
  | c :: rest =>
    if 2 ≤ ((c :: rest).takeWhile (· == marker)).length then
      some (.run [] ((c :: rest).takeWhile (· == marker)) ((c :: rest).dropWhile (· == marker)))
    else if c = marker ∧ rest.takeWhile isWord ≠ [] then
      some (.reference ⟨[], rest.takeWhile isWord, rest.dropWhile isWord⟩)
    else none

/-- The leftmost match in a text. -/
def search? (marker : Char) : Text → Option Match
  | [] => none
  | c :: rest =>
    match matchHere? marker (c :: rest) with
    | some found => some found
    | none => (search? marker rest).map (Match.cons c)

theorem ne_marker_head_dropWhile (marker : Char) (text : Text) :
    (text.dropWhile (· == marker)).head? ≠ some marker := by
  have h := List.head?_dropWhile_not (· == marker) text
  intro hhead
  rw [hhead] at h
  simp at h

theorem matchHere?_eq_some {marker : Char} {text : Text} {found : Match}
    (h : matchHere? marker text = some found) :
    text = found.text marker ∧ found.Maximal marker := by
  cases text with
  | nil => cases h
  | cons c rest =>
    rw [matchHere?] at h
    split at h
    · rename_i hrun
      obtain rfl := Option.some.inj h
      exact ⟨List.takeWhile_append_dropWhile.symm, hrun,
        fun c hc => by simpa using List.all_eq_true.mp List.all_takeWhile c hc,
        ne_marker_head_dropWhile marker _⟩
    · split at h
      · rename_i hname
        obtain rfl := Option.some.inj h
        exact ⟨by simp [Match.text, hname.1], hname.2, by simp⟩
      · cases h

/-- **A search** splits the text at a run of markers or at a marker with its whole name. -/
theorem search?_eq_some {marker : Char} {text : Text} {found : Match}
    (h : search? marker text = some found) :
    text = found.text marker ∧ found.Maximal marker := by
  induction text generalizing found with
  | nil => cases h
  | cons c rest ih =>
    rw [search?] at h
    split at h
    · rename_i hhere
      obtain rfl := Option.some.inj h
      exact matchHere?_eq_some hhere
    · obtain ⟨later, hlater, rfl⟩ := Option.map_eq_some_iff.mp h
      obtain ⟨rfl, hmaximal⟩ := ih hlater
      cases later <;> exact ⟨rfl, hmaximal⟩

theorem length_run_tail_lt {marker : Char} {text lead markers tail : Text}
    (h : search? marker text = some (.run lead markers tail)) : tail.length < text.length := by
  obtain ⟨rfl, hlength, -⟩ := search?_eq_some h
  simp only [Match.text, List.length_append]
  omega

/-! ### The first reference -/

/-- The first reference of a text. Behind a run of markers the search starts anew. -/
def first? (marker : Char) (text : Text) : Option Reference :=
  match _h : search? marker text with
  | none => none
  | some (.reference r) => some r
  | some (.run lead markers tail) => (first? marker tail).map (prepend (lead ++ markers))
termination_by text.length
decreasing_by exact length_run_tail_lt _h

theorem first?_of_none {marker : Char} {text : Text} (h : search? marker text = none) :
    first? marker text = none := by
  fun_cases first? marker text <;> simp_all

theorem first?_of_reference {marker : Char} {text : Text} {r : Reference}
    (h : search? marker text = some (.reference r)) : first? marker text = some r := by
  fun_cases first? marker text <;> simp_all

theorem first?_of_run {marker : Char} {text lead markers tail : Text}
    (h : search? marker text = some (.run lead markers tail)) :
    first? marker text = (first? marker tail).map (prepend (lead ++ markers)) := by
  fun_cases first? marker text <;> simp_all

theorem first?_eq_some {marker : Char} {text : Text} {r : Reference}
    (h : first? marker text = some r) :
    text = r.lead ++ marker :: (r.name ++ r.tail) ∧
      r.name ≠ [] ∧ r.name = (r.name ++ r.tail).takeWhile isWord := by
  fun_induction first? marker text generalizing r with
  | case1 => cases h
  | case2 text found hsearch =>
    obtain rfl := Option.some.inj h
    exact search?_eq_some hsearch
  | case3 text lead markers tail hsearch ih =>
    obtain ⟨later, hlater, rfl⟩ := Option.map_eq_some_iff.mp h
    obtain ⟨htail, hname⟩ := ih hlater
    refine ⟨?_, hname⟩
    rw [(search?_eq_some hsearch).1, Match.text, htail]
    simp [prepend]

/-- The three parts of a reference and the marker make up the text. -/
theorem eq_of_first? {marker : Char} {text : Text} {r : Reference}
    (h : first? marker text = some r) : text = r.lead ++ marker :: (r.name ++ r.tail) :=
  (first?_eq_some h).1

theorem name_ne_nil {marker : Char} {text : Text} {r : Reference}
    (h : first? marker text = some r) : r.name ≠ [] :=
  (first?_eq_some h).2.1

/-- The name is the longest run of word characters after the marker. -/
theorem name_eq_takeWhile {marker : Char} {text : Text} {r : Reference}
    (h : first? marker text = some r) : r.name = (r.name ++ r.tail).takeWhile isWord :=
  (first?_eq_some h).2.2

theorem length_tail_lt {marker : Char} {text : Text} {r : Reference}
    (h : first? marker text = some r) : r.tail.length < text.length := by
  rw [eq_of_first? h]
  simp only [List.length_append, List.length_cons]
  omega

/-- **Induction along a scan**: from the text behind the first reference to the whole text. -/
@[elab_as_elim]
theorem scan_induction (marker : Char) {motive : Text → Prop}
    (none : ∀ text, first? marker text = .none → motive text)
    (some : ∀ text r, first? marker text = .some r → motive r.tail → motive text) (text : Text) :
    motive text :=
  match h : first? marker text with
  | .none => none text h
  | .some r => some text r h (scan_induction marker none some r.tail)
termination_by text.length
decreasing_by exact length_tail_lt h

/-! ### Places -/

/-- The place of a reference in a text, in bytes. -/
structure Span where
  /-- Where the marker starts. -/
  start : Nat
  /-- Where the name ends. -/
  stop : Nat
  /-- The name. -/
  name : Text
  deriving DecidableEq

/-- The place of a reference, given the text in front of its marker and the byte at which that text
starts. -/
def Span.ofBefore (marker : Char) (offset : Nat) (before name : Text) : Span :=
  ⟨offset + before.byteLength, offset + before.byteLength + Text.byteLength (marker :: name), name⟩

/-- The references of a text that starts at byte `offset`. -/
def spansFrom (marker : Char) (offset : Nat) (text : Text) : List Span :=
  match _h : first? marker text with
  | none => []
  | some r =>
    let start := offset + r.lead.byteLength
    let stop := start + Text.byteLength (marker :: r.name)
    ⟨start, stop, r.name⟩ :: spansFrom marker stop r.tail
termination_by text.length
decreasing_by exact length_tail_lt _h

theorem spansFrom_of_none {marker : Char} {text : Text} (h : first? marker text = none)
    (offset : Nat) : spansFrom marker offset text = [] := by
  rw [spansFrom]
  split
  · rfl
  · rename_i hr
    rw [h] at hr
    cases hr

theorem spansFrom_of_some {marker : Char} {text : Text} {r : Reference}
    (h : first? marker text = some r) (offset : Nat) :
    spansFrom marker offset text =
      Span.ofBefore marker offset r.lead r.name ::
        spansFrom marker (Span.ofBefore marker offset r.lead r.name).stop r.tail := by
  rw [spansFrom]
  split
  · rename_i hr
    rw [h] at hr
    cases hr
  · rename_i s hs
    obtain rfl := Option.some.inj (h.symm.trans hs)
    rfl

/-! ### By byte offsets -/

/-- The byte at which the text from byte `start` on begins: `start` itself, or the end of the
character that it lies in. -/
def boundary (text : Text) (start : Nat) : Nat :=
  text.byteLength - (text.dropBytes start).byteLength

theorem exists_eq_append_dropBytes (start : Nat) (text : Text) :
    ∃ front, text = front ++ text.dropBytes start ∧ boundary text start = front.byteLength := by
  obtain ⟨front, hfront⟩ := Text.exists_eq_append_dropBytes start text
  refine ⟨front, hfront, ?_⟩
  have hlength := congrArg Text.byteLength hfront
  rw [Text.byteLength_append] at hlength
  rw [boundary]
  omega

/-- From the end of a part of the text that is read from byte `start` on, the rest of it is read. -/
theorem dropBytes_boundary_add {text part rest : Text} {start : Nat}
    (h : text.dropBytes start = part ++ rest) :
    text.dropBytes (boundary text start + part.byteLength) = rest ∧
      boundary text (boundary text start + part.byteLength) =
        boundary text start + part.byteLength ∧
      boundary text start + part.byteLength ≤ text.byteLength := by
  obtain ⟨front, hfront, hstart⟩ := exists_eq_append_dropBytes start text
  rw [h, ← List.append_assoc] at hfront
  have hdrop : text.dropBytes (boundary text start + part.byteLength) = rest := by
    rw [hstart, ← Text.byteLength_append, hfront]
    exact Text.dropBytes_byteLength_append _ _
  have hlength := congrArg Text.byteLength hfront
  simp only [Text.byteLength_append] at hlength
  refine ⟨hdrop, ?_, by omega⟩
  rw [boundary, hdrop]
  omega

theorem length_dropBytes_run_lt {marker : Char} {text lead markers tail : Text} {start : Nat}
    (h : search? marker (text.dropBytes start) = some (.run lead markers tail)) :
    (text.dropBytes (boundary text start + lead.byteLength + markers.byteLength)).length <
      (text.dropBytes start).length := by
  have hrest := (search?_eq_some h).1
  rw [Match.text, ← List.append_assoc] at hrest
  rw [Nat.add_assoc, ← Text.byteLength_append, (dropBytes_boundary_add hrest).1]
  exact length_run_tail_lt h

/-- The first reference from byte `start` on. A start inside a character counts as the end of that
character; one byte past the end there is nothing to find, and further out there is no answer.
Behind a run of markers the search starts anew. -/
def next? (marker : Char) (text : Text) (start : Nat) : Option (Option Span) :=
  if text.byteLength + 1 < start then none
  else
    match _h : search? marker (text.dropBytes start) with
    | none => some none
    | some (.reference r) =>
      some (some (Span.ofBefore marker (boundary text start) r.lead r.name))
    | some (.run lead markers _) =>
      next? marker text (boundary text start + lead.byteLength + markers.byteLength)
termination_by (text.dropBytes start).length
decreasing_by exact length_dropBytes_run_lt _h

theorem ofBefore_add_byteLength (marker : Char) (offset : Nat) (front : Text) (r : Reference) :
    Span.ofBefore marker (offset + front.byteLength) r.lead r.name =
      Span.ofBefore marker offset (r.prepend front).lead (r.prepend front).name := by
  simp [Span.ofBefore, prepend, Nat.add_assoc]

/-- **The search by offsets** finds the place of the first reference of the text that it reads. -/
theorem next?_eq (marker : Char) (text : Text) (start : Nat) :
    next? marker text start =
      if text.byteLength + 1 < start then none
      else some ((first? marker (text.dropBytes start)).map fun r =>
        Span.ofBefore marker (boundary text start) r.lead r.name) := by
  fun_induction next? marker text start with
  | case1 start hfar => rw [if_pos hfar]
  | case2 start hnear hsearch => rw [if_neg hnear, first?_of_none hsearch, Option.map_none]
  | case3 start hnear r hsearch => rw [if_neg hnear, first?_of_reference hsearch, Option.map_some]
  | case4 start hnear lead markers tail hsearch ih =>
    -- a run ends at a boundary, so behind it the search reads what is left of the text
    have hrest := (search?_eq_some hsearch).1
    rw [Match.text, ← List.append_assoc] at hrest
    obtain ⟨hdrop, hboundary, hle⟩ := dropBytes_boundary_add hrest
    rw [Text.byteLength_append, ← Nat.add_assoc] at hdrop hboundary hle
    rw [ih, if_neg (by omega), if_neg hnear, first?_of_run hsearch, hdrop, hboundary,
      Option.map_map, Nat.add_assoc, ← Text.byteLength_append]
    exact congrArg (fun f => some ((first? marker tail).map f))
      (funext fun r => ofBefore_add_byteLength marker _ (lead ++ markers) r)

/-- A search from the end of the reference that is found reads the text behind it. -/
theorem exists_of_next? {marker : Char} {text : Text} {start : Nat} {span : Span}
    (h : next? marker text start = some (some span)) :
    ¬text.byteLength + 1 < start ∧ ¬text.byteLength + 1 < span.stop ∧
      ∃ r, first? marker (text.dropBytes start) = some r ∧
        span = Span.ofBefore marker (boundary text start) r.lead r.name ∧
        text.dropBytes span.stop = r.tail ∧ boundary text span.stop = span.stop := by
  rw [next?_eq] at h
  split at h
  · cases h
  · rename_i hnear
    obtain ⟨r, hr, rfl⟩ := Option.map_eq_some_iff.mp (Option.some.inj h)
    have hrest := eq_of_first? hr
    rw [← List.cons_append, ← List.append_assoc] at hrest
    obtain ⟨hdrop, hboundary, hle⟩ := dropBytes_boundary_add hrest
    rw [Text.byteLength_append, ← Nat.add_assoc] at hdrop hboundary hle
    exact ⟨hnear, Nat.not_lt.mpr (Nat.le_succ_of_le hle), r, hr, rfl, hdrop, hboundary⟩

theorem length_dropBytes_stop_lt {marker : Char} {text : Text} {start : Nat} {span : Span}
    (h : next? marker text start = some (some span)) :
    (text.dropBytes span.stop).length < (text.dropBytes start).length := by
  obtain ⟨-, -, r, hr, -, hdrop, -⟩ := exists_of_next? h
  rw [hdrop]
  exact length_tail_lt hr

/-- The references from byte `start` on: the search resumes where the reference ends that it has
found, until it finds none. -/
def spans? (marker : Char) (text : Text) (start : Nat) : Option (List Span) :=
  match _h : next? marker text start with
  | none => none
  | some none => some []
  | some (some span) => (spans? marker text span.stop).map (span :: ·)
termination_by (text.dropBytes start).length
decreasing_by exact length_dropBytes_stop_lt _h

/-- **The list** is that of the places at which the text splits. -/
theorem spans?_eq (marker : Char) (text : Text) (start : Nat) :
    spans? marker text start =
      if text.byteLength + 1 < start then none
      else some (spansFrom marker (boundary text start) (text.dropBytes start)) := by
  fun_induction spans? marker text start with
  | case1 start hnext =>
    rw [next?_eq] at hnext
    split at hnext
    · rename_i hfar
      rw [if_pos hfar]
    · cases hnext
  | case2 start hnext =>
    rw [next?_eq] at hnext
    split at hnext
    · cases hnext
    · rename_i hnear
      rw [if_neg hnear, spansFrom_of_none (Option.map_eq_none_iff.mp (Option.some.inj hnext))]
  | case3 start span hnext ih =>
    obtain ⟨hnear, hstop, r, hr, hspan, hdrop, hboundary⟩ := exists_of_next? hnext
    rw [ih, if_neg hstop, if_neg hnear, hdrop, hboundary, spansFrom_of_some hr, ← hspan,
      Option.map_some]

end Reference

end NamedSql
