import NamedSql.Reference

/-! # What the search finds

The search for a reference passes over runs of markers and starts anew behind each of them, so where
it stands depends on all the runs that came before. What it finds does not. `firstAfter?` walks from
character to character and knows of what it has left behind only whether that was a marker; it takes
the first marker that has no marker at either side and a name behind it.

The two agree (`first?_eq_firstAfter?`): a run is walked through without finding anything
(`firstAfter?_run`), and behind it the walk goes on as at the start of a text
(`firstAfter?_eq_false`), which is where the search starts anew. -/

namespace NamedSql

namespace Reference

/-- The first isolated marker of a text with the name behind it, `afterMarker` telling whether a
marker stands right before the text. -/
def firstAfter? (marker : Char) : Bool → Text → Option Reference
  | _, [] => none
  | afterMarker, c :: rest =>
    if c = marker ∧ afterMarker = false ∧ rest.head? ≠ some marker ∧ rest.takeWhile isWord ≠ [] then
      some ⟨[], rest.takeWhile isWord, rest.dropWhile isWord⟩
    else
      (firstAfter? marker (c == marker) rest).map (cons c)

theorem map_cons_map_prepend (c : Char) (a : Text) (o : Option Reference) :
    (o.map (prepend a)).map (cons c) = o.map (prepend (c :: a)) := by
  cases o <;> rfl

section

variable {marker : Char}

/-- A marker in front matters only to a marker. -/
theorem firstAfter?_eq_false {text : Text} (h : text.head? ≠ some marker) (afterMarker : Bool) :
    firstAfter? marker afterMarker text = firstAfter? marker false text := by
  cases text with
  | nil => rfl
  | cons c rest =>
    have hc : c ≠ marker := fun hc => h (congrArg some hc)
    rw [firstAfter?, firstAfter?, if_neg fun h => hc h.1, if_neg fun h => hc h.1]

theorem firstAfter?_true_run {markers tail : Text} (hmarkers : ∀ c ∈ markers, c = marker)
    (htail : tail.head? ≠ some marker) :
    firstAfter? marker true (markers ++ tail) =
      (firstAfter? marker false tail).map (prepend markers) := by
  induction markers with
  | nil =>
    rw [List.nil_append, firstAfter?_eq_false htail true]
    cases firstAfter? marker false tail <;> rfl
  | cons c markers ih =>
    obtain rfl := hmarkers c List.mem_cons_self
    rw [List.cons_append, firstAfter?, if_neg fun h => Bool.noConfusion h.2.1, beq_self_eq_true,
      ih fun d hd => hmarkers d (List.mem_cons_of_mem _ hd), map_cons_map_prepend]

/-- **Runs hold no reference**: behind two or more markers the walk goes on as at the start of a
text. -/
theorem firstAfter?_run {markers tail : Text} (hlength : 2 ≤ markers.length)
    (hmarkers : ∀ c ∈ markers, c = marker) (htail : tail.head? ≠ some marker) :
    firstAfter? marker false (markers ++ tail) =
      (firstAfter? marker false tail).map (prepend markers) := by
  -- the first marker has one behind it, each of the others has one in front of it
  match markers, hlength with
  | c :: d :: markers, _ =>
    obtain rfl := hmarkers c List.mem_cons_self
    obtain rfl := hmarkers d (List.mem_cons_of_mem _ List.mem_cons_self)
    rw [List.cons_append, firstAfter?, if_neg fun h => h.2.2.1 rfl, beq_self_eq_true,
      firstAfter?_true_run (fun e he => hmarkers e (List.mem_cons_of_mem _ he)) htail,
      map_cons_map_prepend]

/-- What the walk makes of a text, given the leftmost match in it. -/
def afterMatch? (marker : Char) : Match → Option Reference
  | .run lead markers tail => (firstAfter? marker false tail).map (prepend (lead ++ markers))
  | .reference r => some r

theorem afterMatch?_cons (c : Char) (found : Match) :
    afterMatch? marker (found.cons c) = (afterMatch? marker found).map (cons c) := by
  cases found with
  | run lead markers tail => exact (map_cons_map_prepend ..).symm
  | reference r => rfl

/-- Where a marker begins no run, none follows. -/
theorem head?_ne_of_not_run {rest : Text}
    (h : ¬2 ≤ ((marker :: rest).takeWhile (· == marker)).length) : rest.head? ≠ some marker := by
  cases rest with
  | nil => simp
  | cons d rest =>
    rintro ⟨⟩
    exact h (by simp)

/-- A match at the start of the text is where the walk stops, or the run that it walks through. -/
theorem firstAfter?_of_matchHere? {text : Text} {found : Match}
    (h : matchHere? marker text = some found) :
    firstAfter? marker false text = afterMatch? marker found := by
  obtain ⟨htext, hmaximal⟩ := matchHere?_eq_some h
  cases text with
  | nil => cases h
  | cons c rest =>
    rw [matchHere?] at h
    split at h
    · obtain rfl := Option.some.inj h
      obtain ⟨hlength, hmarkers, htail⟩ := hmaximal
      exact (congrArg (firstAfter? marker false) htext).trans
        (firstAfter?_run hlength hmarkers htail)
    · rename_i hrun
      split at h
      · rename_i hname
        obtain rfl := Option.some.inj h
        obtain ⟨rfl, hname⟩ := hname
        rw [firstAfter?, if_pos ⟨rfl, rfl, head?_ne_of_not_run hrun, hname⟩]
        rfl
      · cases h

/-- Where nothing matches at the start of the text, the walk goes on as at the start of the rest. -/
theorem firstAfter?_of_matchHere?_eq_none {c : Char} {rest : Text}
    (h : matchHere? marker (c :: rest) = none) :
    firstAfter? marker false (c :: rest) = (firstAfter? marker false rest).map (cons c) := by
  rw [matchHere?] at h
  split at h
  · cases h
  · rename_i hrun
    split at h
    · cases h
    · rename_i hname
      rw [firstAfter?, if_neg fun h => hname ⟨h.1, h.2.2.2⟩]
      by_cases hc : c = marker
      · subst hc
        rw [firstAfter?_eq_false (head?_ne_of_not_run hrun)]
      · rw [beq_false_of_ne hc]

theorem firstAfter?_eq_search? (text : Text) :
    firstAfter? marker false text = (search? marker text).bind (afterMatch? marker) := by
  induction text with
  | nil => rfl
  | cons c rest ih =>
    rw [search?]
    split
    · rename_i hhere
      exact firstAfter?_of_matchHere? hhere
    · rename_i hhere
      rw [firstAfter?_of_matchHere?_eq_none hhere, ih, Option.map_bind, Option.bind_map]
      exact congrArg _ (funext fun found => (afterMatch?_cons c found).symm)

/-- **The search finds the first isolated marker** that a name follows, whatever runs of markers it
has passed over and started anew behind. -/
theorem first?_eq_firstAfter? (text : Text) :
    first? marker text = firstAfter? marker false text := by
  rw [firstAfter?_eq_search?]
  fun_induction first? marker text with
  | case1 text hsearch => rw [hsearch]; rfl
  | case2 text r hsearch => rw [hsearch]; rfl
  | case3 text lead markers tail hsearch ih =>
    rw [hsearch, ih, ← firstAfter?_eq_search?]
    rfl

end

theorem firstAfter?_eq_some {marker : Char} {afterMarker : Bool} {text : Text} {r : Reference}
    (h : firstAfter? marker afterMarker text = some r) :
    text = r.lead ++ marker :: (r.name ++ r.tail) := by
  induction text generalizing afterMarker r with
  | nil => simp [firstAfter?] at h
  | cons c rest ih =>
    rw [firstAfter?] at h
    split at h
    · rename_i hc
      obtain rfl := Option.some.inj h
      simp [hc.1]
    · obtain ⟨s, hs, rfl⟩ := Option.map_eq_some_iff.mp h
      have := ih hs
      simp [cons, this]

end Reference

end NamedSql
