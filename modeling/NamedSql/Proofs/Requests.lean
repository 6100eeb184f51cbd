import Mathlib.Data.List.InsertIdx
import NamedSql.Proofs.Choices
import NamedSql.Proofs.Sharing
import NamedSql.Proofs.Uses

/-! # One request after the other

A session is a cache and what it was asked for so far, with the answers. One more request has three
cases (`get_of_stored`, `get_of_ok`, `get_of_error`): the template has an entry, whose plan is the
answer; it has none and gets one with a new plan; or it cannot be compiled, and has no entry
afterwards. So all answers for a template are one object, the one that its entry leads to, and
answers for different templates are different objects (`Session.Sound`, `sound_ask`).

With what the choices of a request come to (`Request.template_eq_iff`) this says when two requests
are answered with the same object (`same_object_iff_agree`). -/

namespace NamedSql

namespace Cache

/-! ### One request -/

section

variable {cache : Cache} {template : Template}

/-- A template with a plan is answered with it, and the cache stays as it is. -/
theorem get_of_stored {place : Nat} {cell : OnceCell (Shared Plan)} {shared : Shared Plan}
    (hplace : cache.place? template = some place) (hcell : cache.cells[place]? = some cell)
    (hstored : cell.stored = some shared) : cache.get template = (.ok shared, cache) := by
  have hset : cache.cells.set place cell = cache.cells := by
    obtain ⟨hlt, rfl⟩ := List.getElem?_eq_some_iff.mp hcell
    exact List.set_getElem_self hlt
  have hfull : cell.isFull = true := by rw [OnceCell.isFull, hstored, Option.isSome_some]
  have hget : ∀ outcome : Except Error (Shared Plan), cell.get outcome = (.ok shared, cell) := by
    intro outcome
    simp only [OnceCell.get, hstored]
  simp only [get, claim_of_some hplace, getD_cells hcell, hget, hset, hfull, if_true]

/-- A new template gets a cell with its plan. -/
theorem get_of_ok {plan : Plan} (hplace : cache.place? template = none)
    (hplan : template.compile = .ok plan) : cache.get template =
      (.ok ⟨cache.compilations + 1, plan⟩,
        ⟨cache.cells ++ [⟨some ⟨cache.compilations + 1, plan⟩, none⟩],
          cache.entries ++ [(template, cache.cells.length)], cache.compilations + 1⟩) := by
  simp [get, claim_of_none hplace, outcome, hplan, Except.map, OnceCell.get, OnceCell.empty,
    OnceCell.isFull]

/-- A new template that cannot be compiled leaves no entry. -/
theorem get_of_error {e : Error} (hplace : cache.place? template = none)
    (herror : template.compile = .error e) : cache.get template =
      (.error e, ⟨cache.cells ++ [.empty], cache.entries, cache.compilations + 1⟩) := by
  have hdiscard : ((cache.entries ++ [(template, cache.cells.length)]).filter
      fun entry => entry.1 != template) = cache.entries := by
    rw [List.filter_append, List.filter_eq_self.mpr]
    · simp
    · rintro entry hentry
      simp only [bne_iff_ne]
      rintro rfl
      exact not_mem_of_place? hplace (List.mem_map_of_mem hentry)
  have hfind : (cache.entries.find? fun entry => entry.1 == template) = none :=
    Option.map_eq_none_iff.mp hplace
  simp [get, claim_of_none hplace, outcome, herror, Except.map, OnceCell.get, OnceCell.empty,
    OnceCell.isFull, discard, place?, isVacant, hfind, hdiscard]

end

end Cache

/-! ### Sessions -/

/-- A cache and the requests to it so far, each with its answer. -/
structure Session where
  /-- The templates that were asked for, with the answers. -/
  log : List (Template × Except Error (Shared Plan))
  /-- The cache. -/
  cache : Cache

namespace Session

/-- One more request. -/
def ask (session : Session) (template : Template) : Session :=
  ⟨session.log ++ [(template, (session.cache.get template).1)], (session.cache.get template).2⟩

/-- The session of some requests to a new cache. -/
def ofTemplates (templates : List Template) : Session := templates.foldl ask ⟨[], .empty⟩

theorem ofTemplates_concat (templates : List Template) (template : Template) :
    ofTemplates (templates ++ [template]) = (ofTemplates templates).ask template := by
  rw [ofTemplates, List.foldl_append]
  rfl

theorem map_fst_ofTemplates (templates : List Template) :
    (ofTemplates templates).log.map (·.1) = templates := by
  induction templates using List.reverseRecOn with
  | nil => rfl
  | append_singleton templates template ih =>
    rw [ofTemplates_concat, ask, List.map_append, ih]
    rfl

/-- What holds after any number of requests. -/
structure Sound (session : Session) : Prop where
  /-- Each answer is what a compilation makes. -/
  value : ∀ entry ∈ session.log, entry.2.map Shared.value = entry.1.compile
  /-- The templates that can be compiled have an entry, in the order of the first requests. -/
  keys : session.cache.entries.map (·.1) =
    ((session.log.map (·.1)).filter fun template => template.compile.isOk).eraseDups
  /-- The plan of an entry is the answer to all requests for its template. -/
  stored : ∀ template place, (template, place) ∈ session.cache.entries →
    ∃ cell shared, session.cache.cells[place]? = some cell ∧ cell.stored = some shared ∧
      ∀ answer, (template, answer) ∈ session.log → answer = .ok shared
  /-- There were as many compilations as the number of a plan says, or more. -/
  serial_le : ∀ template shared, (template, .ok shared) ∈ session.log →
    shared.serial ≤ session.cache.compilations
  /-- Plans for different templates have different numbers. -/
  owner : ∀ template shared template' shared', (template, .ok shared) ∈ session.log →
    (template', .ok shared') ∈ session.log → shared.serial = shared'.serial → template = template'

theorem isOk_compile_iff {template : Template} :
    template.compile.isOk = true ↔ template.Compiles := by
  unfold Template.Compiles
  cases template.compile <;> simp [Except.isOk, Except.toBool]

theorem Sound.mem_keys_iff {session : Session} (h : session.Sound) {template : Template} :
    template ∈ session.cache.entries.map (·.1) ↔
      template ∈ session.log.map (·.1) ∧ template.Compiles := by
  rw [h.keys, List.mem_eraseDups, List.mem_filter, isOk_compile_iff]

theorem mem_concat_iff {α : Type} {l : List α} {a b : α} : b ∈ l ++ [a] ↔ b ∈ l ∨ b = a := by
  rw [List.mem_append, List.mem_singleton]

/-- One more request for a template that has a plan. -/
theorem Sound.ask_of_some {session : Session} (h : session.Sound) {template : Template} {place : Nat}
    (hplace : session.cache.place? template = some place) : (session.ask template).Sound := by
  have hentry := Cache.mem_of_place? hplace
  obtain ⟨cell, shared, hcell, hstored, hanswers⟩ := h.stored _ _ hentry
  obtain ⟨hlog, hcompiles⟩ := h.mem_keys_iff.mp (List.mem_map_of_mem hentry)
  -- the answer was given before
  have hmem : (template, .ok shared) ∈ session.log := by
    obtain ⟨⟨template, answer⟩, hmem, rfl⟩ := List.mem_map.mp hlog
    rwa [hanswers answer hmem] at hmem
  have hsub : ∀ entry ∈ session.log ++ [(template, Except.ok shared)], entry ∈ session.log := by
    intro entry hentry
    rcases mem_concat_iff.mp hentry with hentry | rfl
    · exact hentry
    · exact hmem
  rw [ask, Cache.get_of_stored hplace hcell hstored]
  refine ⟨fun entry hentry => h.value entry (hsub entry hentry), ?_, fun t p hentry => ?_,
    fun t a ha => h.serial_le t a (hsub _ ha),
    fun t a t' b ha hb => h.owner t a t' b (hsub _ ha) (hsub _ hb)⟩
  · have hfilter : template ∈ (session.log.map (·.1)).filter fun t => t.compile.isOk :=
      List.mem_filter.mpr ⟨hlog, isOk_compile_iff.mpr hcompiles⟩
    rw [List.map_append, List.map_singleton, List.filter_append, List.filter_singleton,
      isOk_compile_iff.mpr hcompiles, cond_true, Layout.eraseDups_concat, if_pos hfilter]
    exact h.keys
  · obtain ⟨cell', shared', hcell', hstored', hanswers'⟩ := h.stored t p hentry
    exact ⟨cell', shared', hcell', hstored', fun answer hanswer => hanswers' answer (hsub _ hanswer)⟩

section

variable {session : Session} (h : session.Sound) {template : Template}
include h

theorem Sound.value_concat {answer : Except Error (Shared Plan)}
    (hanswer : answer.map Shared.value = template.compile) :
    ∀ entry ∈ session.log ++ [(template, answer)], entry.2.map Shared.value = entry.1.compile := by
  intro entry hentry
  rcases mem_concat_iff.mp hentry with hentry | rfl
  · exact h.value entry hentry
  · exact hanswer

/-- The other entries keep their plans when a new template is asked for. -/
theorem Sound.stored_concat (hplace : session.cache.place? template = none)
    (answer : Except Error (Shared Plan)) (cells : List (OnceCell (Shared Plan))) {t : Template}
    {place : Nat} (hentry : (t, place) ∈ session.cache.entries) :
    ∃ cell shared, (session.cache.cells ++ cells)[place]? = some cell ∧ cell.stored = some shared ∧
      ∀ a, (t, a) ∈ session.log ++ [(template, answer)] → a = .ok shared := by
  obtain ⟨cell, shared, hcell, hstored, hanswers⟩ := h.stored t place hentry
  obtain ⟨hlt, -⟩ := List.getElem?_eq_some_iff.mp hcell
  refine ⟨cell, shared, by rw [List.getElem?_append_left hlt, hcell], hstored, fun a ha => ?_⟩
  rcases mem_concat_iff.mp ha with ha | ha
  · exact hanswers a ha
  · cases ha
    exact absurd (List.mem_map_of_mem hentry) (Cache.not_mem_of_place? hplace)

/-- One more request for a new template that can be compiled. -/
theorem Sound.ask_of_ok {plan : Plan} (hplace : session.cache.place? template = none)
    (hplan : template.compile = .ok plan) : (session.ask template).Sound := by
  have hcompiles : template.Compiles := ⟨plan, hplan⟩
  have hnew : template ∉ session.log.map (·.1) := fun hmem =>
    Cache.not_mem_of_place? hplace (h.mem_keys_iff.mpr ⟨hmem, hcompiles⟩)
  rw [ask, Cache.get_of_ok hplace hplan]
  refine ⟨h.value_concat hplan.symm, ?_, fun t p hentry => ?_, fun t a ha => ?_,
    fun t a t' b ha hb hserial => ?_⟩
  · have hfilter : template ∉ (session.log.map (·.1)).filter fun t => t.compile.isOk :=
      fun hmem => hnew (List.mem_filter.mp hmem).1
    rw [List.map_append, List.map_append, List.map_singleton, List.map_singleton,
      List.filter_append, List.filter_singleton, isOk_compile_iff.mpr hcompiles, cond_true,
      Layout.eraseDups_concat, if_neg hfilter, h.keys]
  · rcases mem_concat_iff.mp hentry with hentry | hentry
    · exact h.stored_concat hplace _ _ hentry
    · cases hentry
      refine ⟨_, _, List.getElem?_concat_length .., rfl, fun a ha => ?_⟩
      rcases mem_concat_iff.mp ha with ha | ha
      · exact absurd (List.mem_map_of_mem ha) hnew
      · cases ha
        rfl
  · rcases mem_concat_iff.mp ha with ha | ha
    · exact Nat.le_succ_of_le (h.serial_le t a ha)
    · cases ha
      exact Nat.le_refl _
  · -- the number of the new plan is larger than those of all others
    rcases mem_concat_iff.mp ha with ha | ha <;> rcases mem_concat_iff.mp hb with hb | hb
    · exact h.owner t a t' b ha hb hserial
    · cases hb
      have hle := h.serial_le t a ha
      rw [hserial] at hle
      exact absurd hle (Nat.not_succ_le_self _)
    · cases ha
      have hle := h.serial_le t' b hb
      rw [← hserial] at hle
      exact absurd hle (Nat.not_succ_le_self _)
    · cases ha
      cases hb
      rfl

/-- One more request for a new template that cannot be compiled. -/
theorem Sound.ask_of_error {e : Error} (hplace : session.cache.place? template = none)
    (herror : template.compile = .error e) : (session.ask template).Sound := by
  have hold : ∀ {t : Template} {a : Shared Plan},
      (t, .ok a) ∈ session.log ++ [(template, Except.error e)] → (t, .ok a) ∈ session.log := by
    intro t a ha
    rcases mem_concat_iff.mp ha with ha | ha
    · exact ha
    · cases ha
  rw [ask, Cache.get_of_error hplace herror]
  refine ⟨h.value_concat herror.symm, ?_, fun t p hentry => h.stored_concat hplace _ _ hentry,
    fun t a ha => Nat.le_succ_of_le (h.serial_le t a (hold ha)),
    fun t a t' b ha hb => h.owner t a t' b (hold ha) (hold hb)⟩
  rw [List.map_append, List.map_singleton, List.filter_append, List.filter_singleton, herror]
  exact h.keys.trans (by rw [Except.isOk, Except.toBool, cond_false, List.append_nil])

end

/-- **One more request** keeps a session sound. -/
theorem sound_ask {session : Session} (h : session.Sound) (template : Template) :
    (session.ask template).Sound := by
  cases hplace : session.cache.place? template with
  | some place => exact h.ask_of_some hplace
  | none =>
    cases hcompile : template.compile with
    | ok plan => exact h.ask_of_ok hplace hcompile
    | error e => exact h.ask_of_error hplace hcompile

/-- **Sessions are sound**, after however many requests. -/
theorem sound_ofTemplates (templates : List Template) : (ofTemplates templates).Sound := by
  induction templates using List.reverseRecOn with
  | nil =>
    refine ⟨?_, rfl, ?_, ?_, ?_⟩ <;> intros <;> contradiction
  | append_singleton templates template ih =>
    rw [ofTemplates_concat]
    exact sound_ask ih template

/-! ### Identity -/

/-- Two answers are one object: they carry the same number. -/
def SameObject (log : List (Template × Except Error (Shared Plan))) (i j : Nat) : Prop :=
  ∃ template a template' b, log[i]? = some (template, .ok a) ∧ log[j]? = some (template', .ok b) ∧
    a.serial = b.serial

/-- The answers, without their numbers. -/
def plans (log : List (Template × Except Error (Shared Plan))) : List (Except Error Plan) :=
  log.map fun entry => entry.2.map Shared.value

section

variable {session : Session} (h : session.Sound)
  {log : List (Template × Except Error (Shared Plan))} (hlog : log ⊆ session.log)
include h hlog

theorem Sound.plans_eq : plans log = (log.map (·.1)).map Template.compile := by
  rw [plans, List.map_map]
  exact List.map_congr_left fun entry hentry => h.value entry (hlog hentry)

theorem Sound.sameObject_iff {i j : Nat} {template template' : Template}
    (hi : (log.map (·.1))[i]? = some template) (hj : (log.map (·.1))[j]? = some template') :
    SameObject log i j ↔ template.Compiles ∧ template'.Compiles ∧ template = template' := by
  rw [List.getElem?_map] at hi hj
  obtain ⟨⟨template, answer⟩, hget, rfl⟩ := Option.map_eq_some_iff.mp hi
  obtain ⟨⟨template', answer'⟩, hget', rfl⟩ := Option.map_eq_some_iff.mp hj
  have hmem := hlog (List.mem_of_getElem? hget)
  have hmem' := hlog (List.mem_of_getElem? hget')
  constructor
  · rintro ⟨t, a, t', b, ha, hb, hserial⟩
    cases hget.symm.trans ha
    cases hget'.symm.trans hb
    exact ⟨⟨a.value, (h.value _ hmem).symm⟩, ⟨b.value, (h.value _ hmem').symm⟩,
      h.owner _ _ _ _ hmem hmem' hserial⟩
  · rintro ⟨hcompiles, -, rfl⟩
    -- both are the plan that the entry leads to
    obtain ⟨⟨t, place⟩, hentry, rfl⟩ := List.mem_map.mp
      (h.mem_keys_iff.mpr ⟨List.mem_map_of_mem hmem, hcompiles⟩)
    obtain ⟨cell, shared, -, -, hanswers⟩ := h.stored t place hentry
    cases hanswers answer hmem
    cases hanswers answer' hmem'
    exact ⟨t, shared, t, shared, hget, hget', rfl⟩

end

theorem getElem?_of_sameObject {log : List (Template × Except Error (Shared Plan))} {i j : Nat}
    (h : SameObject log i j) : ∃ template template', (log.map (·.1))[i]? = some template ∧
      (log.map (·.1))[j]? = some template' := by
  obtain ⟨t, a, t', b, ha, hb, -⟩ := h
  exact ⟨t, t', by rw [List.getElem?_map, ha]; rfl, by rw [List.getElem?_map, hb]; rfl⟩

/-- Logs of the same templates have the same plans, and the same of them are one object. -/
theorem sameObject_iff_of_map_fst {session session' : Session} (h : session.Sound)
    (h' : session'.Sound) {log log' : List (Template × Except Error (Shared Plan))}
    (hlog : log ⊆ session.log) (hlog' : log' ⊆ session'.log)
    (hfst : log.map (·.1) = log'.map (·.1)) (i j : Nat) :
    SameObject log i j ↔ SameObject log' i j := by
  constructor
  · intro hsame
    obtain ⟨t, t', hi, hj⟩ := getElem?_of_sameObject hsame
    rw [h.sameObject_iff hlog hi hj] at hsame
    rw [hfst] at hi hj
    exact (h'.sameObject_iff hlog' hi hj).mpr hsame
  · intro hsame
    obtain ⟨t, t', hi, hj⟩ := getElem?_of_sameObject hsame
    rw [h'.sameObject_iff hlog' hi hj] at hsame
    rw [← hfst] at hi hj
    exact (h.sameObject_iff hlog hi hj).mpr hsame

/-- The size is the number of templates that can be compiled. -/
theorem Sound.size_eq {session : Session} (h : session.Sound) : session.cache.size =
    ((session.log.map (·.1)).filter fun template => template.compile.isOk).eraseDups.length := by
  rw [← h.keys, List.length_map]
  rfl

end Session

theorem eraseIdx_append_cons {α : Type} (before : List α) (a : α) (after : List α) :
    (before ++ a :: after).eraseIdx before.length = before ++ after := by
  rw [List.eraseIdx_append_of_length_le (Nat.le_refl _), Nat.sub_self, List.eraseIdx_cons_zero]

open Session in
/-- **Identity in a cache**: two requests are answered with one object exactly if both templates can
be compiled, their texts are the same and their last choices agree. Each answer is what its template
compiles to without a cache. A request for a template that cannot be compiled changes none of the
other answers, nor which of them are one object, nor the number of templates that have a cell. -/
theorem same_object_iff_agree (requests : List Request) :
    let session := ofTemplates (requests.map Request.template)
    (∀ i j a b, requests[i]? = some a → requests[j]? = some b →
      (SameObject session.log i j ↔ a.template.Compiles ∧ b.template.Compiles ∧ a.Agree b)) ∧
    plans session.log = requests.map (fun request => request.template.compile) ∧
    ∀ before failing after, requests = before ++ failing :: after → ¬failing.template.Compiles →
      let without := ofTemplates ((before ++ after).map Request.template)
      session.cache.size = without.cache.size ∧
      plans (session.log.eraseIdx before.length) = plans without.log ∧
      ∀ i j, SameObject (session.log.eraseIdx before.length) i j ↔ SameObject without.log i j := by
  intro session
  have h : session.Sound := sound_ofTemplates _
  have hfst : session.log.map (·.1) = requests.map Request.template := map_fst_ofTemplates _
  refine ⟨fun i j a b hi hj => ?_, ?_, ?_⟩
  · rw [h.sameObject_iff (List.Subset.refl _) (by rw [hfst, List.getElem?_map, hi]; rfl)
      (by rw [hfst, List.getElem?_map, hj]; rfl), Request.template_eq_iff]
  · rw [h.plans_eq (List.Subset.refl _), hfst, List.map_map]
    rfl
  · intro before failing after hsplit hfails without
    have h' : without.Sound := sound_ofTemplates _
    have hfst' : without.log.map (·.1) = (before ++ after).map Request.template :=
      map_fst_ofTemplates _
    have hsub : session.log.eraseIdx before.length ⊆ session.log := List.eraseIdx_subset
    have herase : (session.log.eraseIdx before.length).map (·.1) = without.log.map (·.1) := by
      rw [← List.eraseIdx_map, hfst, hfst', hsplit, List.eraseIdx_map, eraseIdx_append_cons]
    refine ⟨?_, ?_, sameObject_iff_of_map_fst h h' hsub (List.Subset.refl _) herase⟩
    · have hfilter : failing.template.compile.isOk = false := by
        rw [← Bool.not_eq_true, isOk_compile_iff]
        exact hfails
      rw [h.size_eq, h'.size_eq, hfst, hfst', hsplit]
      simp [hfilter]
    · rw [h.plans_eq hsub, h'.plans_eq (List.Subset.refl _), herase]

open Session in
/-- Two requests that come to the same after several choices, one with another capacity, and a
failing one among them. -/
theorem same_object_iff_agree_overwritten :
    let text := "a IN :b".toList
    let requests : List Request :=
      [⟨text, [.marker '#', .capacity ['b'] 3, .settings ⟨':', 2⟩]⟩, ⟨text, [.capacity ['c'] 3]⟩,
        ⟨text, [.settings ⟨'#', 2⟩, .capacity ['b'] 5, .marker ':', .capacity ['b'] 3]⟩,
        ⟨text, [.settings ⟨':', 3⟩]⟩]
    let session := ofTemplates (requests.map Request.template)
    SameObject session.log 0 2 ∧ ¬SameObject session.log 0 3 ∧ session.cache.size = 2 ∧
      session.cache.size =
        (ofTemplates ((requests.eraseIdx 1).map Request.template)).cache.size := by
  intro text requests session
  obtain ⟨hsame, -, hfails⟩ := same_object_iff_agree requests
  have hcompiles : (Request.template ⟨text, [.marker '#', .capacity ['b'] 3,
      .settings ⟨':', 2⟩]⟩).Compiles := isOk_compile_iff.mp (by decide +kernel)
  have hfailing : ¬(Request.template ⟨text, [.capacity ['c'] 3]⟩).Compiles := by
    rw [← isOk_compile_iff]
    decide +kernel
  refine ⟨(hsame 0 2 _ _ rfl rfl).mpr ⟨hcompiles, isOk_compile_iff.mp (by decide +kernel),
    Request.template_eq_iff.mp (by decide +kernel)⟩, fun h => ?_, by decide +kernel,
    (hfails [_] _ [_, _] rfl hfailing).1⟩
  exact absurd ((hsame 0 3 _ _ rfl rfl).mp h).2.2.default (by decide)

end NamedSql
