import Tinygame.Base.Traced

/-!
# Computations told as deeds

A traced computation often comes down to a few kinds of deeds on a part of its state. Here a computation is told as a list
of deeds: they lead from the part before to the part after, and what they do is what the points of the trace announce. Of
what was announced last, an error may keep the deed from being done.
-/

namespace Tinygame
open Traced

/-! ### Without points -/

namespace Traced
variable {ν σ ε α : Type} {R : σ → Prop} {m : Traced ν σ ε α} {s : σ} {post : α → σ → Prop}

/-- No point is passed, and an error leaves `R`. -/
def silent (R : σ → Prop) : Terms ν σ ε := ⟨fun _ _ => True, fun _ _ => False, fun _ => R⟩

theorem holds_of_silent {terms : Terms ν σ ε} (holds : Holds (silent R) m s post)
    (stopped : ∀ reason s', R s' → terms.stopped reason s') : Holds terms m s post := by
  intro _
  obtain ⟨never, ends⟩ := holds fun _ _ => trivial
  refine ⟨fun point member => (never point member).elim, ?_⟩
  split <;> rename_i same
  · rw [same] at ends
    exact ends
  · rw [same] at ends
    exact stopped _ _ ends

theorem points_of_silent (holds : Holds (silent R) m s post) : (m s).points = [] :=
  List.eq_nil_iff_forall_not_mem.mpr (holds fun _ _ => trivial).1

/-- How it ends. -/
theorem ends_of_silent (holds : Holds (silent R) m s post) :
    (∃ result, m s = ⟨[], (m s).state, .ok result⟩ ∧ post result (m s).state) ∨
      ∃ reason, m s = ⟨[], (m s).state, .error reason⟩ ∧ R (m s).state := by
  have nothing := points_of_silent holds
  obtain ⟨-, ends⟩ := holds fun _ _ => trivial
  rcases ran : m s with ⟨points, state, reason | result⟩
  all_goals
    rw [ran] at nothing ends
    obtain rfl : points = [] := nothing
  · exact .inr ⟨reason, rfl, ends⟩
  · exact .inl ⟨result, rfl, ends⟩

/-- Nothing but the result is dropped. -/
theorem run_discard (m : Traced ν σ ε α) (s : σ) : ((m >>= fun _ => Pure.pure ()) s : Trail ν σ ε Unit).points = (m s).points ∧
    ((m >>= fun _ => Pure.pure ()) s : Trail ν σ ε Unit).state = (m s).state ∧
    ((m >>= fun _ => Pure.pure ()) s : Trail ν σ ε Unit).result.isOk = (m s).result.isOk := by
  rcases ran : m s with ⟨points, state, reason | result⟩
  · rw [run_bind_error ran]
    exact ⟨rfl, rfl, rfl⟩
  · rw [run_bind_ok ran]
    exact ⟨List.append_nil _, rfl, rfl⟩

end Traced

/-! ### Deeds -/

/-- How far a list of deeds has come. -/
structure Course (σ κ : Type) where
  state : σ
  ended : Bool
  done : List κ

/-- A part of the state, the deeds on it with what each of them does, and what the points announce. -/
structure Scene (ν σ ε δ κ μ τ : Type) where
  act : δ → Traced ν σ ε Unit
  does : σ → δ → List κ
  allowed : σ → δ → Prop
  view : τ → σ
  announces : μ → τ → List κ
  careful : μ → τ → Prop

namespace Scene
variable {ν σ ε δ κ μ τ φ α β : Type} (scene : Scene ν σ ε δ κ μ τ)

/-- An error ends the course. -/
def step (course : Course σ κ) (deed : δ) : Course σ κ :=
  if course.ended then course
  else
    { state := (scene.act deed course.state).state
      ended := !(scene.act deed course.state).result.isOk
      done := course.done ++ scene.does course.state deed }

def Allows (course : Course σ κ) (deed : δ) : Prop := course.ended = false → scene.allowed course.state deed

def announced (points : List (μ × τ)) : List κ := points.flatMap fun point => scene.announces point.1 point.2

/-- What the deeds come to, where the computation has come to `trail` and `owed` was announced before. -/
def Reaches (owed : List κ) (trail : Trail μ τ φ α) (start last : Course σ κ) (post : α → τ → Prop) : Prop :=
  last.state = scene.view trail.state ∧
    match trail.result with
    | .ok result => last.ended = false ∧ last.done = start.done ++ (owed ++ scene.announced trail.points) ∧ post result trail.state
    | .error _ => ∃ cut, start.done ++ (owed ++ scene.announced trail.points) = last.done ++ cut ∧ cut.length ≤ 1

/-- Where its points are careful, the computation is told by deeds that are allowed. -/
def Tells (owed : List κ) (m : Traced μ τ φ α) (t : τ) (post : α → τ → Prop) : Prop :=
  (∀ point ∈ (m t).points, scene.careful point.1 point.2) → ∃ deeds : List δ, ∀ done,
    Along scene.step scene.Allows ⟨scene.view t, false, done⟩ deeds ∧
      scene.Reaches owed (m t) ⟨scene.view t, false, done⟩ (run scene.step ⟨scene.view t, false, done⟩ deeds) post

variable {scene} {owed : List κ} {t : τ} {post : β → τ → Prop}

theorem tells_pure {result : β} (met : post result t) : scene.Tells [] (Pure.pure result : Traced μ τ φ β) t post :=
  fun _ => ⟨[], fun _ => ⟨trivial, rfl, rfl, (List.append_nil _).symm, met⟩⟩

/-- An error keeps at most one thing from being done. -/
theorem tells_stop {reason : φ} (few : owed.length ≤ 1) : scene.Tells owed (stop reason : Traced μ τ φ β) t post := by
  refine fun _ => ⟨[], fun done => ⟨trivial, rfl, owed, ?_, few⟩⟩
  show done ++ (owed ++ []) = done ++ owed
  rw [List.append_nil]

theorem tells_mark {name : μ} {post : Unit → τ → Prop} (nothing : scene.announces name t = []) (met : post () t) :
    scene.Tells [] (mark name : Traced μ τ φ Unit) t post := by
  refine fun _ => ⟨[], fun done => ⟨trivial, rfl, rfl, ?_, met⟩⟩
  show done = done ++ ([] ++ (scene.announces name t ++ []))
  rw [nothing]
  exact (List.append_nil _).symm

theorem Tells.mono {m : Traced μ τ φ β} {weaker : β → τ → Prop} (tells : scene.Tells owed m t post)
    (weaken : ∀ result t', post result t' → weaker result t') : scene.Tells owed m t weaker := by
  intro careful
  obtain ⟨deeds, told⟩ := tells careful
  refine ⟨deeds, fun done => ?_⟩
  obtain ⟨along, state, ends⟩ := told done
  refine ⟨along, state, ?_⟩
  split <;> rename_i same
  · rw [same] at ends
    exact ⟨ends.1, ends.2.1, weaken _ _ ends.2.2⟩
  · rw [same] at ends
    exact ends

variable (scene) in
/-- What has been done stays done. -/
theorem done_grows (course : Course σ κ) (deeds : List δ) : course.done <+: (run scene.step course deeds).done := by
  induction deeds generalizing course with
  | nil => exact List.prefix_refl _
  | cons deed rest ih =>
    refine List.IsPrefix.trans ?_ (ih _)
    unfold step
    split
    · exact List.prefix_refl _
    · exact List.prefix_append ..

theorem Reaches.course {points : List (μ × τ)} {t' : τ} {result : β} {start last : Course σ κ}
    (reaches : scene.Reaches owed (⟨points, t', .ok result⟩ : Trail μ τ φ β) start last post) :
    last = ⟨scene.view t', false, start.done ++ (owed ++ scene.announced points)⟩ := by
  obtain ⟨state, going, done, -⟩ := reaches
  obtain ⟨here, ended, did⟩ := last
  exact congr (congr (congrArg Course.mk state) going) done

/-- After a first part that is told, the rest is told on. -/
theorem tells_of_ok {m : Traced μ τ φ α} {next : α → Traced μ τ φ β} {points : List (μ × τ)} {result : α} {t' : τ}
    (ran : m t = ⟨points, t', .ok result⟩) {deeds : List δ} {did late : List κ}
    (told : ∀ done, Along scene.step scene.Allows ⟨scene.view t, false, done⟩ deeds ∧
      run scene.step ⟨scene.view t, false, done⟩ deeds = ⟨scene.view t', false, done ++ did⟩)
    (whole : did ++ late = owed ++ scene.announced points)
    (rest : scene.Tells late (next result) t' post) : scene.Tells owed (m >>= next) t post := by
  intro careful
  rw [run_bind_ok ran next] at careful ⊢
  obtain ⟨more, goesOn⟩ := rest fun point member => careful point (List.mem_append_right _ member)
  refine ⟨deeds ++ more, fun done => ?_⟩
  obtain ⟨along, reached⟩ := told done
  obtain ⟨along', state, ends⟩ := goesOn (done ++ did)
  have order (later : List κ) : done ++ (owed ++ (scene.announced points ++ later)) = done ++ did ++ (late ++ later) := by
    rw [← List.append_assoc owed, ← whole, List.append_assoc done, List.append_assoc did]
  have both : scene.announced (points ++ (next result t').points) = scene.announced points ++ scene.announced (next result t').points :=
    List.flatMap_append
  rw [run_append, reached]
  refine ⟨along_append.mpr ⟨along, reached.symm ▸ along'⟩, state, ?_⟩
  dsimp only
  rw [both, order]
  exact ends

theorem tells_bind {m : Traced μ τ φ α} {next : α → Traced μ τ φ β} {between : α → τ → Prop} (first : scene.Tells owed m t between)
    (rest : ∀ result t', between result t' → scene.Tells [] (next result) t' post) : scene.Tells owed (m >>= next) t post := by
  intro careful
  rcases ran : m t with ⟨points, t', reason | result⟩
  · have careful' := careful
    rw [run_bind_error ran next] at careful' ⊢
    unfold Tells at first
    rw [ran] at first
    exact first careful'
  · have started : ∀ point ∈ points, scene.careful point.1 point.2 := by
      intro point member
      refine careful point ?_
      rw [run_bind_ok ran next]
      exact List.mem_append_left _ member
    unfold Tells at first
    rw [ran] at first
    obtain ⟨deeds, told⟩ := first started
    have met : between result t' := (told []).2.2.2.2
    have told' (done : List κ) : Along scene.step scene.Allows ⟨scene.view t, false, done⟩ deeds ∧
        run scene.step ⟨scene.view t, false, done⟩ deeds = ⟨scene.view t', false, done ++ (owed ++ scene.announced points)⟩ :=
      ⟨(told done).1, (told done).2.course⟩
    exact tells_of_ok ran told' (List.append_nil _) (rest result t' met) careful

/-- What a point announces is owed by the rest. -/
theorem tells_mark_bind {name : μ} {next : Unit → Traced μ τ φ β}
    (rest : scene.careful name t → scene.Tells (owed ++ scene.announces name t) (next ()) t post) :
    scene.Tells owed (mark name >>= next) t post := by
  intro careful
  have ran : (mark name : Traced μ τ φ Unit) t = ⟨[(name, t)], t, .ok ()⟩ := rfl
  have here : scene.careful name t := by
    rw [run_bind_ok ran] at careful
    exact careful (name, t) (List.mem_cons_self ..)
  have told (done : List κ) : Along scene.step scene.Allows ⟨scene.view t, false, done⟩ [] ∧
      run scene.step ⟨scene.view t, false, done⟩ [] = ⟨scene.view t, false, done ++ []⟩ :=
    ⟨trivial, congrArg (Course.mk _ _) (List.append_nil done).symm⟩
  have whole : [] ++ (owed ++ scene.announces name t) = owed ++ scene.announced [(name, t)] :=
    congrArg (owed ++ ·) (List.append_nil _).symm
  exact tells_of_ok ran told whole (rest here) careful

/-- What a first part that does nothing comes to is put in its place. -/
theorem tells_run_bind {m : Traced μ τ φ α} {next : α → Traced μ τ φ β} {result : α} (ran : m t = ⟨[], t, .ok result⟩)
    (rest : scene.Tells owed (next result) t post) : scene.Tells owed (m >>= next) t post := by
  intro careful
  have told (done : List κ) : Along scene.step scene.Allows ⟨scene.view t, false, done⟩ [] ∧
      run scene.step ⟨scene.view t, false, done⟩ [] = ⟨scene.view t, false, done ++ []⟩ :=
    ⟨trivial, congrArg (Course.mk _ _) (List.append_nil done).symm⟩
  exact tells_of_ok ran told (List.append_nil owed).symm rest careful

/-- A first part that does nothing leaves what is owed to the rest. -/
theorem tells_later_bind {m : Traced μ τ φ α} {next : α → Traced μ τ φ β} {between : α → τ → Prop} (few : owed.length ≤ 1)
    (first : scene.Tells [] m t between) (nothing : (m t).points = [])
    (rest : ∀ result t', between result t' → scene.Tells owed (next result) t' post) : scene.Tells owed (m >>= next) t post := by
  intro careful
  have started : ∀ point ∈ (m t).points, scene.careful point.1 point.2 := by
    rw [nothing]
    exact fun _ member => absurd member List.not_mem_nil
  obtain ⟨deeds, told⟩ := first started
  rcases ran : m t with ⟨points, t', reason | result⟩
  · rw [run_bind_error ran next]
    rw [ran] at told nothing
    obtain rfl : points = [] := nothing
    refine ⟨deeds, fun done => ?_⟩
    obtain ⟨along, state, cut, left, -⟩ := told done
    refine ⟨along, state, owed, ?_, few⟩
    have left : done = (run scene.step ⟨scene.view t, false, done⟩ deeds).done ++ cut := (List.append_nil done).symm.trans left
    obtain ⟨more, grown⟩ := done_grows scene ⟨scene.view t, false, done⟩ deeds
    have grown : done ++ more = (run scene.step ⟨scene.view t, false, done⟩ deeds).done := grown
    have same : done = (run scene.step ⟨scene.view t, false, done⟩ deeds).done := by
      have lengths := congrArg List.length left
      have lengths' := congrArg List.length grown
      rw [List.length_append] at lengths lengths'
      have short : more = [] := List.eq_nil_of_length_eq_zero (by omega)
      rw [← grown, short, List.append_nil]
    show done ++ (owed ++ []) = _ ++ owed
    rw [List.append_nil, ← same]
  · rw [ran] at told nothing
    obtain rfl : points = [] := nothing
    have met : between result t' := (told []).2.2.2.2
    have told' (done : List κ) : Along scene.step scene.Allows ⟨scene.view t, false, done⟩ deeds ∧
        run scene.step ⟨scene.view t, false, done⟩ deeds = ⟨scene.view t', false, done ++ []⟩ :=
      ⟨(told done).1, (told done).2.course⟩
    exact tells_of_ok ran told' (List.append_nil _).symm (rest result t' met) careful

/-! ### Single deeds -/

/-- A computation that is one deed. -/
theorem tells_deed {m : Traced μ τ φ β} (deed : δ)
    (allowed : (∀ point ∈ (m t).points, scene.careful point.1 point.2) → scene.allowed (scene.view t) deed)
    (state : (scene.act deed (scene.view t)).state = scene.view (m t).state)
    (does : ∀ result, (m t).result = .ok result → (scene.act deed (scene.view t)).result.isOk = true ∧
      scene.does (scene.view t) deed = owed ++ scene.announced (m t).points ∧ post result (m t).state)
    (cut : ∀ reason, (m t).result = .error reason →
      ∃ cut, owed ++ scene.announced (m t).points = scene.does (scene.view t) deed ++ cut ∧ cut.length ≤ 1) :
    scene.Tells owed m t post := by
  refine fun careful => ⟨[deed], fun done => ⟨⟨fun _ => allowed careful, trivial⟩, ?_⟩⟩
  show scene.Reaches owed (m t) _ (scene.step ⟨scene.view t, false, done⟩ deed) post
  refine ⟨state, ?_⟩
  split <;> rename_i same
  · obtain ⟨isOk, same', met⟩ := does _ same
    refine ⟨?_, congrArg (done ++ ·) same', met⟩
    show (!(scene.act deed (scene.view t)).result.isOk) = false
    rw [isOk]
    rfl
  · obtain ⟨cut, left, short⟩ := cut _ same
    refine ⟨cut, ?_, short⟩
    rw [left]
    exact (List.append_assoc ..).symm

/-! ### From every state -/

variable (scene) in
/-- The computation is told from every state, with a result that meets `Q`. -/
def Plays (m : Traced μ τ φ α) (Q : α → Prop) : Prop := ∀ t, scene.Tells [] m t fun result _ => Q result

section
variable {m : Traced μ τ φ α} {next : α → Traced μ τ φ β} {P : α → Prop} {Q : β → Prop}

theorem plays_pure {result : β} (met : Q result) : scene.Plays (Pure.pure result : Traced μ τ φ β) Q := fun _ => tells_pure met

theorem plays_bind (first : scene.Plays m P) (rest : ∀ result, P result → scene.Plays (next result) Q) : scene.Plays (m >>= next) Q :=
  fun t => tells_bind (first t) fun result t' met => rest result met t'

theorem plays_read : scene.Plays (read : Traced μ τ φ τ) fun _ => True :=
  fun _ _ => ⟨[], fun _ => ⟨trivial, rfl, rfl, (List.append_nil _).symm, trivial⟩⟩

theorem plays_stop {reason : φ} : scene.Plays (stop reason : Traced μ τ φ β) Q := fun _ => tells_stop (Nat.zero_le _)

theorem plays_mark {name : μ} (nothing : ∀ t, scene.announces name t = []) :
    scene.Plays (mark name : Traced μ τ φ Unit) fun _ => True :=
  fun t => tells_mark (nothing t) trivial

theorem plays_require {reason : φ} (value : Option β) :
    scene.Plays (require reason value : Traced μ τ φ β) fun result => value = some result := by
  cases value with
  | none => exact plays_stop
  | some result => exact plays_pure rfl

theorem plays_foldlM {step : β → α → Traced μ τ φ β} (each : ∀ acc round, scene.Plays (step acc round) fun _ => True)
    (rounds : List α) (acc : β) : scene.Plays (rounds.foldlM step acc) fun _ => True := by
  induction rounds generalizing acc with
  | nil => exact plays_pure trivial
  | cons round rest ih =>
    rw [List.foldlM_cons]
    exact plays_bind (each acc round) fun acc _ => ih acc

theorem plays_forM {step : α → Traced μ τ φ PUnit} (each : ∀ round, scene.Plays (step round) fun _ => True) (rounds : List α) :
    scene.Plays (rounds.forM step) fun _ => True := by
  induction rounds with
  | nil => exact plays_pure trivial
  | cons round rest ih =>
    show scene.Plays (step round >>= fun _ => rest.forM step) fun _ => True
    exact plays_bind (each round) fun _ _ => ih

end

/-! ### On a part of a larger state -/

section
variable {μ' τ' φ' : Type}

/-- The same deeds, seen from the larger state. -/
def widen (scene : Scene ν σ ε δ κ μ τ) (part : τ' → τ) (announces : μ' → τ' → List κ) (careful : μ' → τ' → Prop) :
    Scene ν σ ε δ κ μ' τ' where
  act := scene.act
  does := scene.does
  allowed := scene.allowed
  view t := scene.view (part t)
  announces := announces
  careful := careful

variable {part : τ' → τ} {put : τ → τ' → τ'} {name : μ → μ'} {reason : φ → φ'} {announces : μ' → τ' → List κ}
  {careful : μ' → τ' → Prop}

theorem plays_within (stored : ∀ t t', part (put t t') = t) (alike : ∀ n t t', announces (name n) (put t t') = scene.announces n t)
    (cares : ∀ n t t', careful (name n) (put t t') → scene.careful n t) {m : Traced μ τ φ β} {Q : β → Prop} (plays : scene.Plays m Q) :
    (scene.widen part announces careful).Plays (within part put name reason m) Q := by
  intro t cautious
  unfold within at cautious ⊢
  have plays := plays (part t)
  unfold Tells at plays
  have said (points : List (μ × τ)) :
      (scene.widen part announces careful).announced (points.map fun point => (name point.1, put point.2 t)) = scene.announced points := by
    unfold announced
    rw [List.flatMap_map]
    exact List.flatMap_congr fun point _ => alike point.1 point.2 t
  rcases ran : m (part t) with ⟨points, t', stop | result⟩
  all_goals
    rw [ran] at cautious plays
    obtain ⟨deeds, told⟩ := plays fun point member => cares _ _ _ (cautious _ (List.mem_map_of_mem member))
    refine ⟨deeds, fun done => ?_⟩
    obtain ⟨along, state, ends⟩ := told done
    refine ⟨along, state.trans (congrArg scene.view (stored ..)).symm, ?_⟩
  · exact said points ▸ ends
  · exact ⟨ends.1, said points ▸ ends.2.1, ends.2.2⟩

end

end Scene
end Tinygame
