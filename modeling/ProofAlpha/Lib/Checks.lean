/-
Argument checks: `if not condition: raise ValueError(message)` as a step of
`Except String`, and what is known once a sequence of checks has passed. A check
that collects its reason instead of raising it is `reason_if`.
-/
import Mathlib.Data.List.Forall2

set_option autoImplicit false

namespace ProofAlpha.Lib

/-- `if not condition: raise ValueError(message)`. -/
def require (condition : Bool) (message : String) : Except String Unit :=
  if condition then .ok () else .error message

variable {α β : Type}

/-- A sequence that starts with a check and succeeds has passed the check. -/
theorem require_bind_ok {condition : Bool} {message : String} {rest : Unit → Except String α}
    {a : α} (h : (require condition message >>= rest) = .ok a) :
    condition = true ∧ rest () = .ok a := by
  cases condition with
  | true => exact ⟨rfl, h⟩
  | false => cases h

/-- A check that holds is passed. -/
theorem require_ok {condition : Bool} {message : String} (h : condition = true)
    (rest : Unit → Except String α) : (require condition message >>= rest) = rest () := by
  rw [h]
  rfl

/-- A sequence that starts with a check succeeds if the check and the rest do. -/
theorem require_bind_eq_ok {condition : Bool} {message : String} {rest : Unit → Except String α}
    {a : α} :
    (require condition message >>= rest) = .ok a ↔ condition = true ∧ rest () = .ok a :=
  ⟨require_bind_ok, fun h => (require_ok h.1 rest).trans h.2⟩

/-- A sequence that succeeds has a first step that succeeds. -/
theorem bind_ok {ε : Type} {first : Except ε α} {rest : α → Except ε β} {b : β}
    (h : (first >>= rest) = .ok b) : ∃ a, first = .ok a ∧ rest a = .ok b := by
  cases first with
  | ok a => exact ⟨a, rfl, h⟩
  | error message => cases h

/-- A first step that succeeds hands over its value. -/
theorem ok_bind {ε : Type} (a : α) (rest : α → Except ε β) : (Except.ok a >>= rest) = rest a :=
  rfl

/-- What every step of a loop keeps holds at the end of a run that does not raise. -/
theorem foldlM_keeps {ε σ : Type} {step : σ → α → Except ε σ} {motive : σ → Prop} {xs : List α}
    (hstep : ∀ s s', motive s → ∀ x ∈ xs, step s x = .ok s' → motive s') {s s' : σ}
    (hs : motive s) (h : xs.foldlM step s = .ok s') : motive s' := by
  induction xs generalizing s with
  | nil =>
      cases h
      exact hs
  | cons x xs ih =>
      rw [List.foldlM_cons] at h
      obtain ⟨next, hnext, h⟩ := bind_ok h
      exact ih (fun s s' hs x' hx' => hstep s s' hs x' (List.mem_cons_of_mem x hx'))
        (hstep s next hs x List.mem_cons_self hnext) h

/-- A loop that keeps what each step returns has a result of each step. -/
theorem foldlM_keep_ok {ε σ : Type} {step : α → Except ε β} {keep : σ → β → σ} {xs : List α} :
    ∀ {s s' : σ}, xs.foldlM (fun s x => do return keep s (← step x)) s = .ok s' →
      ∃ ys, List.Forall₂ (fun x y => step x = .ok y) xs ys ∧ s' = ys.foldl keep s := by
  induction xs with
  | nil =>
      intro s s' h
      cases h
      exact ⟨[], List.Forall₂.nil, rfl⟩
  | cons x xs ih =>
      intro s s' h
      rw [List.foldlM_cons] at h
      obtain ⟨next, hnext, h⟩ := bind_ok h
      obtain ⟨y, hy, hkeep⟩ := bind_ok hnext
      cases hkeep
      obtain ⟨ys, hys, rfl⟩ := ih h
      exact ⟨y :: ys, List.Forall₂.cons hy hys, rfl⟩

/-- A loop whose steps do not raise is a fold. -/
theorem foldlM_eq_ok_foldl {ε σ : Type} {step : σ → α → Except ε σ} {next : σ → α → σ}
    {xs : List α} (hstep : ∀ s, ∀ x ∈ xs, step s x = .ok (next s x)) (s : σ) :
    xs.foldlM step s = .ok (xs.foldl next s) := by
  induction xs generalizing s with
  | nil => rfl
  | cons x xs ih =>
      rw [List.foldlM_cons, hstep s x List.mem_cons_self, ok_bind, List.foldl_cons]
      exact ih (fun s x' hx' => hstep s x' (List.mem_cons_of_mem x hx')) (next s x)

/-- What every checked item satisfies holds of all of them. -/
theorem forall_of_mapM_ok {check : α → Except String β} {p : β → Prop}
    (hcheck : ∀ a b, check a = .ok b → p b) :
    ∀ {xs : List α} {ys : List β}, xs.mapM check = .ok ys → ∀ y ∈ ys, p y := by
  intro xs
  induction xs with
  | nil =>
      intro ys h y hy
      cases h
      cases hy
  | cons x xs ih =>
      intro ys h y hy
      rw [List.mapM_cons] at h
      obtain ⟨b, hb, h⟩ := bind_ok h
      obtain ⟨rest, hrest, h⟩ := bind_ok h
      cases h
      rcases List.mem_cons.mp hy with rfl | hmem
      · exact hcheck x y hb
      · exact ih hrest y hmem

/-- A result that shows something is there. -/
theorem map_ok {γ : Type} {result : Except String β} {view : β → γ} {c : γ}
    (h : result.map view = .ok c) : ∃ b, result = .ok b ∧ view b = c := by
  cases result with
  | ok b => exact ⟨b, rfl, Except.ok.inj h⟩
  | error message => cases h

/-- If the steps of a loop show the same as those of a loop that succeeds, it
succeeds, and its results show the same. -/
theorem mapM_ok_congr {γ : Type} {f f' : α → Except String β} {view : β → γ} {xs : List α}
    (h : ∀ x ∈ xs, (f' x).map view = (f x).map view) :
    ∀ {ys : List β}, xs.mapM f = .ok ys →
      ∃ ys', xs.mapM f' = .ok ys' ∧ ys'.map view = ys.map view := by
  induction xs with
  | nil =>
      intro ys hys
      cases hys
      exact ⟨[], rfl, rfl⟩
  | cons x xs ih =>
      intro ys hys
      rw [List.mapM_cons] at hys
      obtain ⟨b, hb, hys⟩ := bind_ok hys
      obtain ⟨rest, hrest, hys⟩ := bind_ok hys
      cases hys
      have hx := h x (List.mem_cons_self ..)
      rw [hb] at hx
      obtain ⟨b', hb', hview⟩ := map_ok hx
      obtain ⟨rest', hrest', hmap⟩ := ih (fun y hy => h y (List.mem_cons_of_mem x hy)) hrest
      refine ⟨b' :: rest', ?_, by rw [List.map_cons, List.map_cons, hview, hmap]⟩
      rw [List.mapM_cons, hb', hrest']
      rfl

/-- A loop whose steps all succeed returns their results. -/
theorem mapM_eq_ok_map {ε : Type} {step : α → Except ε β} {result : α → β} {xs : List α}
    (h : ∀ x ∈ xs, step x = .ok (result x)) : xs.mapM step = .ok (xs.map result) := by
  induction xs with
  | nil => rfl
  | cons x xs ih =>
      rw [List.mapM_cons, h x List.mem_cons_self, ih fun y hy => h y (List.mem_cons_of_mem x hy)]
      rfl

/-- A loop whose steps follow from those of a loop that succeeds, and are related to them. -/
theorem mapM_ok_forall₂ {γ : Type} {f : α → Except String β} {g : α → Except String γ}
    {R : γ → β → Prop} (h : ∀ x b, f x = .ok b → ∃ c, g x = .ok c ∧ R c b) {xs : List α} :
    ∀ {ys : List β}, xs.mapM f = .ok ys → ∃ zs, xs.mapM g = .ok zs ∧ List.Forall₂ R zs ys := by
  induction xs with
  | nil =>
      intro ys hys
      cases hys
      exact ⟨[], rfl, List.Forall₂.nil⟩
  | cons x xs ih =>
      intro ys hys
      rw [List.mapM_cons] at hys
      obtain ⟨b, hb, hys⟩ := bind_ok hys
      obtain ⟨rest, hrest, hys⟩ := bind_ok hys
      cases hys
      obtain ⟨c, hc, hrelated⟩ := h x b hb
      obtain ⟨rest', hrest', hforall⟩ := ih hrest
      refine ⟨c :: rest', ?_, List.Forall₂.cons hrelated hforall⟩
      rw [List.mapM_cons, hc, hrest']
      rfl

/-- A loop whose steps are determined by those of a loop that succeeds. -/
theorem mapM_ok_map {γ : Type} {f : α → Except String β} {g : α → Except String γ} {result : β → γ}
    (h : ∀ x b, f x = .ok b → g x = .ok (result b)) {xs : List α} {ys : List β}
    (hys : xs.mapM f = .ok ys) : xs.mapM g = .ok (ys.map result) := by
  obtain ⟨zs, hzs, hforall⟩ :=
    mapM_ok_forall₂ (R := fun c b => c = result b) (fun x b hb => ⟨result b, h x b hb, rfl⟩) hys
  rw [← List.forall₂_map_right_iff (R := Eq), List.forall₂_eq_eq_eq] at hforall
  rw [hzs, hforall]

/-- Two loops that succeed, run as one. -/
theorem mapM_zip_ok {γ : Type} {f : α → Except String β} {g : α → Except String γ} {xs : List α} :
    ∀ {ys : List β} {zs : List γ}, xs.mapM f = .ok ys → xs.mapM g = .ok zs →
      (xs.mapM fun x => do let b ← f x; let c ← g x; return (b, c)) = .ok (ys.zip zs) := by
  induction xs with
  | nil =>
      intro ys zs hys hzs
      cases hys
      cases hzs
      rfl
  | cons x xs ih =>
      intro ys zs hys hzs
      rw [List.mapM_cons] at hys hzs
      obtain ⟨b, hb, hys⟩ := bind_ok hys
      obtain ⟨rest, hrest, hys⟩ := bind_ok hys
      obtain ⟨c, hc, hzs⟩ := bind_ok hzs
      obtain ⟨rest', hrest', hzs⟩ := bind_ok hzs
      cases hys
      cases hzs
      rw [List.mapM_cons, ih hrest hrest', hb, hc]
      rfl

/-- A loop that succeeds returns a result for each step. -/
theorem length_of_mapM_ok {ε : Type} {step : α → Except ε β} {xs : List α} :
    ∀ {ys : List β}, xs.mapM step = .ok ys → ys.length = xs.length := by
  induction xs with
  | nil =>
      intro ys h
      cases h
      rfl
  | cons x xs ih =>
      intro ys h
      rw [List.mapM_cons] at h
      obtain ⟨y, -, h⟩ := bind_ok h
      obtain ⟨rest, hrest, h⟩ := bind_ok h
      cases h
      rw [List.length_cons, List.length_cons, ih hrest]

/-- The results of a loop that succeeds are those of its steps. -/
theorem mem_mapM_ok {ε : Type} {step : α → Except ε β} {xs : List α} :
    ∀ {ys : List β}, xs.mapM step = .ok ys → ∀ y, y ∈ ys ↔ ∃ x ∈ xs, step x = .ok y := by
  induction xs with
  | nil =>
      intro ys h y
      cases h
      simp
  | cons x xs ih =>
      intro ys h y
      rw [List.mapM_cons] at h
      obtain ⟨first, hfirst, h⟩ := bind_ok h
      obtain ⟨rest, hrest, h⟩ := bind_ok h
      cases h
      rw [List.mem_cons, ih hrest y, List.exists_mem_cons_iff, hfirst, Except.ok.injEq]
      exact or_congr eq_comm Iff.rfl

/-- Every step of a loop that succeeds has succeeded. -/
theorem ok_of_mapM_ok {ε : Type} {step : α → Except ε β} {xs : List α} :
    ∀ {ys : List β}, xs.mapM step = .ok ys → ∀ x ∈ xs, ∃ y, step x = .ok y := by
  induction xs with
  | nil =>
      intro ys h x hx
      cases hx
  | cons first xs ih =>
      intro ys h x hx
      rw [List.mapM_cons] at h
      obtain ⟨y, hfirst, h⟩ := bind_ok h
      obtain ⟨rest, hrest, -⟩ := bind_ok h
      rcases List.mem_cons.mp hx with rfl | hmem
      · exact ⟨y, hfirst⟩
      · exact ih hrest x hmem

/-- A loop succeeds when each of its steps does. -/
theorem exists_mapM_ok_iff {ε : Type} {step : α → Except ε β} {xs : List α} :
    (∃ ys, xs.mapM step = .ok ys) ↔ ∀ x ∈ xs, ∃ y, step x = .ok y := by
  constructor
  · rintro ⟨ys, hys⟩
    exact ok_of_mapM_ok hys
  · intro h
    induction xs with
    | nil => exact ⟨[], rfl⟩
    | cons x xs ih =>
        obtain ⟨y, hy⟩ := h x List.mem_cons_self
        obtain ⟨ys, hys⟩ := ih fun x hx => h x (List.mem_cons_of_mem _ hx)
        refine ⟨y :: ys, ?_⟩
        rw [List.mapM_cons, hy, hys]
        rfl

/-! ## Collected reasons -/

/-- `if condition: reasons.append(reason)`. -/
def reason_if (condition : Bool) (reason : String) : List String :=
  if condition then [reason] else []

@[simp] theorem reason_if_eq_nil {condition : Bool} {reason : String} :
    reason_if condition reason = [] ↔ condition = false := by
  cases condition with
  | true => simp [reason_if]
  | false => simp [reason_if]

@[simp] theorem mem_reason_if {condition : Bool} {reason r : String} :
    r ∈ reason_if condition reason ↔ condition = true ∧ r = reason := by
  cases condition with
  | true => simp [reason_if]
  | false => simp [reason_if]

end ProofAlpha.Lib
