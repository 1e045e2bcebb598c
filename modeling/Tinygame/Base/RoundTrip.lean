import Mathlib.Data.List.Basic

/-!
# Encoding and decoding lists

`mapM` in `Except`: it succeeds when every element does, and what goes round element by element goes
round as a list.
-/

namespace Tinygame

variable {ε α β γ : Type} {x : α} {xs : List α} {ys : List β} {f : α → Except ε β}

theorem bind_ok {first : Except ε α} {next : α → Except ε β} {b : β} :
    (first >>= next) = .ok b ↔ ∃ a, first = .ok a ∧ next a = .ok b := by
  cases first <;> simp [bind, Except.bind]

theorem map_ok {f : α → γ} {result : Except ε α} {b : γ} : f <$> result = .ok b ↔ ∃ a, result = .ok a ∧ f a = b := by
  cases result <;> simp [Functor.map, Except.map]

theorem mapM_cons_ok : (x :: xs).mapM f = .ok ys ↔ ∃ y rest, f x = .ok y ∧ xs.mapM f = .ok rest ∧ ys = y :: rest := by
  rw [List.mapM_cons, bind_ok]
  constructor
  · rintro ⟨y, first, more⟩
    obtain ⟨rest, second, same⟩ := bind_ok.mp more
    exact ⟨y, rest, first, second, (Except.ok.inj same).symm⟩
  · rintro ⟨y, rest, first, second, rfl⟩
    exact ⟨y, first, bind_ok.mpr ⟨rest, second, rfl⟩⟩

theorem mapM_nil_ok : ([] : List α).mapM f = .ok ys ↔ ys = [] := by
  rw [List.mapM_nil]
  exact ⟨fun same => (Except.ok.inj same).symm, fun same => same ▸ rfl⟩

theorem mapM_length : ∀ {xs : List α} {ys : List β}, xs.mapM f = .ok ys → ys.length = xs.length
  | [], _, converted => by rw [mapM_nil_ok.mp converted]; rfl
  | _ :: _, _, converted => by
    obtain ⟨y, rest, -, others, rfl⟩ := mapM_cons_ok.mp converted
    rw [List.length_cons, List.length_cons, mapM_length others]

theorem mapM_at : ∀ {xs : List α} {ys : List β} {i : Nat} {x : α}, xs.mapM f = .ok ys → xs[i]? = some x →
    ∃ y, ys[i]? = some y ∧ f x = .ok y
  | [], _, _, _, _, there => by cases there
  | _ :: _, _, 0, _, converted, there => by
    obtain ⟨y, rest, first, -, rfl⟩ := mapM_cons_ok.mp converted
    obtain rfl := Option.some.inj there
    exact ⟨y, rfl, first⟩
  | _ :: xs, _, i + 1, x, converted, there => by
    obtain ⟨_, rest, -, others, rfl⟩ := mapM_cons_ok.mp converted
    have later : xs[i]? = some x := there
    obtain ⟨y, back, made⟩ := mapM_at others later
    exact ⟨y, back, made⟩

theorem mapM_of_forall {r : α → β} (each : ∀ x ∈ xs, f x = .ok (r x)) : xs.mapM f = .ok (xs.map r) := by
  induction xs with
  | nil => rfl
  | cons x xs ih =>
    exact mapM_cons_ok.mpr ⟨r x, xs.map r, each x List.mem_cons_self,
      ih fun y there => each y (List.mem_cons_of_mem x there), rfl⟩

/-- What is encoded can be decoded, to `r`. -/
def RoundTrips (encode : α → Except ε β) (decode : β → Except ε γ) (v : α) (r : γ) : Prop :=
  ∃ w, encode v = .ok w ∧ decode w = .ok r

/-- A list goes round when its elements do, each decoded beside what it was. -/
theorem zip_roundTrips {encode : α → Except ε β} {decode : α × β → Except ε γ} {r : α → γ} :
    (∃ ws, xs.mapM encode = .ok ws ∧ (xs.zip ws).mapM decode = .ok (xs.map r)) ↔
      ∀ x ∈ xs, RoundTrips encode (fun w => decode (x, w)) x (r x) := by
  induction xs with
  | nil => exact ⟨fun _ x there => absurd there List.not_mem_nil, fun _ => ⟨[], rfl, rfl⟩⟩
  | cons x xs ih =>
    constructor
    · rintro ⟨ws, encoded, decoded⟩
      obtain ⟨w, rest, first, others, rfl⟩ := mapM_cons_ok.mp encoded
      obtain ⟨y, back, first', others', same⟩ := mapM_cons_ok.mp decoded
      obtain ⟨rfl, rfl⟩ := List.cons.inj same
      exact List.forall_mem_cons.mpr ⟨⟨w, first, first'⟩, ih.mp ⟨rest, others, others'⟩⟩
    · intro each
      obtain ⟨⟨w, first, first'⟩, later⟩ := List.forall_mem_cons.mp each
      obtain ⟨rest, others, others'⟩ := ih.mpr later
      exact ⟨w :: rest, mapM_cons_ok.mpr ⟨w, rest, first, others, rfl⟩,
        mapM_cons_ok.mpr ⟨r x, xs.map r, first', others', rfl⟩⟩

theorem mapM_roundTrips {encode : α → Except ε β} {decode : β → Except ε γ} {r : α → γ} :
    RoundTrips (List.mapM encode) (List.mapM decode) xs (xs.map r) ↔ ∀ x ∈ xs, RoundTrips encode decode x (r x) := by
  have zipped {ws : List β} (encoded : xs.mapM encode = .ok ws) :
      (xs.zip ws).mapM (fun pair => decode pair.2) = ws.mapM decode := by
    rw [← List.map_snd_zip (Nat.le_of_eq (mapM_length encoded)), List.mapM_map,
      List.map_snd_zip (Nat.le_of_eq (mapM_length encoded))]
    rfl
  refine Iff.trans ?_ (@zip_roundTrips ε α β γ xs encode (fun pair => decode pair.2) r)
  constructor
  · rintro ⟨ws, encoded, decoded⟩
    exact ⟨ws, encoded, (zipped encoded).trans decoded⟩
  · rintro ⟨ws, encoded, decoded⟩
    exact ⟨ws, encoded, (zipped encoded).symm.trans decoded⟩

end Tinygame
