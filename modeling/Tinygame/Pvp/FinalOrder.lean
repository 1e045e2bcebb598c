import Mathlib.Data.List.Induction
import Mathlib.Data.List.TakeWhile
import Tinygame.Pvp.DayRanking

/-!
# The order of the final ranking

Behind the eight of the bracket come the others that are still in, and then those that went out in the rounds. The latter are in
order. The former are put in front one by one, the best first, and so they come out worst first.
-/

namespace Tinygame.DayFight

/-! ### Sorted lists -/

section
variable {α : Type} {f : α → Int} {l : List α} {k : Nat}

/-- From the greatest to the least. -/
def Descending (f : α → Int) (l : List α) : Prop := l.Pairwise fun a b => f b ≤ f a

/-- The end of a descending list is descending in reverse as well when no more than the rest is above the least. -/
theorem descending_reverse_drop [DecidablePred fun e => ∃ other ∈ l, f other < f e] (sorted : Descending f l) (k : Nat) :
    Descending f (l.drop k).reverse ↔ l.countP (fun e => ∃ other ∈ l, f other < f e) ≤ k := by
  have parts := List.take_append_drop k l
  obtain ⟨-, behind, across⟩ := List.pairwise_append.mp (parts.symm ▸ sorted : Descending f (l.take k ++ l.drop k))
  have sum : l.countP (fun e => ∃ other ∈ l, f other < f e) = (l.take k).countP (fun e => ∃ other ∈ l, f other < f e) +
      (l.drop k).countP fun e => ∃ other ∈ l, f other < f e := by
    rw [← List.countP_append, parts]
  unfold Descending
  rw [List.pairwise_reverse, sum]
  constructor
  · intro ascending
    have none_ : (l.drop k).countP (fun e => ∃ other ∈ l, f other < f e) = 0 := by
      rw [List.countP_eq_zero]
      intro e there
      rw [decide_eq_true_eq]
      rintro ⟨other, member, less⟩
      rw [← parts] at member
      rcases List.mem_append.mp member with front | end_
      · have above := across other front e there
        omega
      · have above : f e ≤ f other :=
          List.Pairwise.forall_of_forall_of_flip (R := fun a b => f a ≤ f b) (fun _ _ => Int.le_refl _) ascending behind there end_
        omega
    have front : (l.take k).countP (fun e => ∃ other ∈ l, f other < f e) ≤ (l.take k).length := List.countP_le_length
    rw [List.length_take] at front
    omega
  · intro few
    rw [List.pairwise_iff_getElem]
    intro i j hi hj lt
    by_contra less
    have first : (l.drop k)[i] ∈ l.drop k := List.getElem_mem hi
    have second : (l.drop k)[j] ∈ l := List.mem_of_mem_drop (List.getElem_mem hj)
    have one : 0 < (l.drop k).countP fun e => ∃ other ∈ l, f other < f e :=
      List.countP_pos_iff.mpr ⟨_, first, decide_eq_true ⟨_, second, by omega⟩⟩
    have all : (l.take k).countP (fun e => ∃ other ∈ l, f other < f e) = (l.take k).length := by
      rw [List.countP_eq_length]
      intro e there
      have above := across e there _ first
      exact decide_eq_true ⟨_, second, by omega⟩
    rw [List.length_take] at all
    rw [List.length_drop] at hi
    omega

/-- An element that is put before the first one no greater keeps the order. -/
theorem descending_insert {x : α} {behind : α → Bool} (sorted : Descending f l)
    (means : ∀ e ∈ l, behind e = decide (f x ≥ f e)) :
    Descending f (l.takeWhile (!behind ·) ++ x :: l.dropWhile (!behind ·)) := by
  induction l with
  | nil => exact List.pairwise_singleton _ x
  | cons a rest ih =>
    obtain ⟨below, sorted⟩ := List.pairwise_cons.mp sorted
    have first := means a List.mem_cons_self
    have later := ih sorted fun e there => means e (List.mem_cons_of_mem a there)
    by_cases less : f x ≥ f a
    · rw [List.takeWhile_cons_of_neg (by simp [first, less]), List.dropWhile_cons_of_neg (by simp [first, less])]
      refine List.pairwise_cons.mpr ⟨fun e there => ?_, List.pairwise_cons.mpr ⟨below, sorted⟩⟩
      rcases List.mem_cons.mp there with rfl | there
      · exact less
      · exact Int.le_trans (below e there) less
    · rw [List.takeWhile_cons_of_pos (by simp [first, less]), List.dropWhile_cons_of_pos (by simp [first, less])]
      refine List.pairwise_cons.mpr ⟨fun e there => ?_, later⟩
      have member : e = x ∨ e ∈ rest := by
        rw [List.append_eq, List.mem_append, List.mem_cons] at there
        rcases there with early | rfl | late
        · exact .inr (List.takeWhile_subset _ early)
        · exact .inl rfl
        · exact .inr (List.dropWhile_subset _ late)
      rcases member with rfl | old
      · omega
      · exact below e old

/-- Among those as great as it, the new element comes first. -/
theorem filter_insert {x : α} (behind : α → Bool) (means : ∀ e ∈ l, behind e = decide (f x ≥ f e)) (n : Int) :
    (l.takeWhile (!behind ·) ++ x :: l.dropWhile (!behind ·)).filter (f · = n) =
      if f x = n then x :: l.filter (f · = n) else l.filter (f · = n) := by
  have parts := List.takeWhile_append_dropWhile (p := (!behind ·)) (l := l)
  have whole : l.filter (f · = n) =
      (l.takeWhile (!behind ·)).filter (f · = n) ++ (l.dropWhile (!behind ·)).filter (f · = n) := by
    rw [← List.filter_append, parts]
  rw [List.filter_append, List.filter_cons, whole]
  by_cases same : f x = n
  · have front : (l.takeWhile (!behind ·)).filter (f · = n) = [] := by
      rw [List.filter_eq_nil_iff]
      intro e early
      have ahead := List.mem_takeWhile_imp early
      rw [means e (List.takeWhile_subset _ early)] at ahead
      simp only [Bool.not_eq_true', decide_eq_false_iff_not] at ahead
      rw [decide_eq_true_eq]
      omega
    simp [same, front]
  · simp [same]

end

/-! ### Those that are out -/

section
variable {robot : UserArea → Option Nat} {entrants : List UserArea} {tickets : UserArea → Int}
  {day : Day} {ua : UserArea}

/-- The entrants can be told apart by their keys. -/
def Keyed (entrants : List UserArea) : Prop := ∀ ua ∈ entrants, ∀ other ∈ entrants, userAreaKey ua = userAreaKey other → ua = other

/-- Who is out has been noted, and stands where its tickets put it. -/
def Ordered (tickets : UserArea → Int) (s : SortResult) : Prop :=
  (∀ e ∈ s.userArea, s.map (userAreaKey e.ua) = some (tickets e.ua)) ∧ Descending (fun e => tickets e.ua) s.userArea

/-- What has been noted is what somebody came with, and whoever has not been noted still has it. -/
structure Noted (entrants : List UserArea) (tickets : UserArea → Int) (day : Day) : Prop where
  noted : ∀ ua ∈ entrants, ∀ n, day.sortResult.map (userAreaKey ua) = some n → n = tickets ua
  fresh : ∀ ua ∈ entrants, day.sortResult.map (userAreaKey ua) = none → day.ticketDay ua = tickets ua
  ordered : Ordered tickets day.sortResult

theorem noteTickets_noted (ticketDay : UserArea → Int) (ua : UserArea) (map : String → Option Int) (key : String) :
    noteTickets ticketDay ua map key = if map key = none ∧ key = userAreaKey ua then some (ticketDay ua) else map key := by
  unfold noteTickets
  split
  · rename_i none_
    rw [Function.update_apply]
    by_cases same : key = userAreaKey ua
    · rw [if_pos same, if_pos ⟨same ▸ none_, same⟩]
    · rw [if_neg same, if_neg (not_and_of_not_right _ same)]
  · rename_i some_
    refine (if_neg ?_).symm
    rintro ⟨none_, rfl⟩
    exact some_ none_

/-- After a note everything is as it should be. -/
theorem Noted.note (keyed : Keyed entrants) (noted : Noted entrants tickets day) (listed : ua ∈ entrants) :
    Noted entrants tickets
      { day with sortResult := { day.sortResult with map := noteTickets day.ticketDay ua day.sortResult.map } } := by
  refine ⟨fun other there n found => ?_, fun other there none_ => ?_, fun e there => ?_, noted.ordered.2⟩
  · dsimp only at found
    rw [noteTickets_noted] at found
    split at found
    · rename_i here
      obtain rfl := keyed other there ua listed here.2
      rw [← Option.some.inj found]
      exact noted.fresh other there here.1
    · exact noted.noted other there n found
  · dsimp only at none_
    rw [noteTickets_noted] at none_
    split at none_
    · cases none_
    · exact noted.fresh other there none_
  · dsimp only
    rw [noteTickets_noted, if_neg (by simp [noted.ordered.1 e there])]
    exact noted.ordered.1 e there

theorem noteTickets_here (ticketDay : UserArea → Int) (ua : UserArea) (map : String → Option Int) :
    noteTickets ticketDay ua map (userAreaKey ua) ≠ none := by
  rw [noteTickets_noted]
  split
  · simp
  · rename_i known
    exact fun none_ => known ⟨none_, rfl⟩

theorem noteTickets_known {ticketDay : UserArea → Int} {map : String → Option Int} {key : String} (known : map key ≠ none) :
    noteTickets ticketDay ua map key ≠ none := by
  rw [noteTickets_noted, if_neg (not_and_of_not_left _ known)]
  exact known

theorem Noted.of_known (noted : Noted entrants tickets day) (listed : ua ∈ entrants)
    (known : day.sortResult.map (userAreaKey ua) ≠ none) : day.sortResult.map (userAreaKey ua) = some (tickets ua) := by
  cases found : day.sortResult.map (userAreaKey ua) with
  | none => exact absurd found known
  | some n => rw [noted.noted ua listed n found]

theorem insert_ordered {s : SortResult} (ordered : Ordered tickets s) (here : s.map (userAreaKey ua) = some (tickets ua)) :
    Ordered tickets (insertEltToSortResult s ua) := by
  obtain ⟨out, sorted⟩ := ordered
  constructor
  · intro e there
    rcases List.mem_cons.mp ((insert_perm s ua).mem_iff.mp there) with rfl | old
    · exact here
    · exact out e old
  · unfold insertEltToSortResult
    refine descending_insert (f := fun e : Entrant => tickets e.ua) sorted fun e there => ?_
    rw [here, out e there]

/-- Everybody who was sorted in, the best first, and of two with as many tickets the later one. -/
structure RankedIn (tickets : UserArea → Int) (uas ranked : List UserArea) : Prop where
  everyone : ranked.Perm uas
  descending : Descending tickets ranked
  ties : ∀ n, ranked.filter (tickets · = n) = (uas.filter (tickets · = n)).reverse

def SortResult.ranked (s : SortResult) : List UserArea := s.userArea.map Entrant.ua

/-- What a series of insertions makes of an empty list. -/
def sortIn (map : String → Option Int) (uas : List UserArea) : SortResult := uas.foldl insertEltToSortResult ⟨[], map⟩

theorem insert_ranked {s : SortResult} {uas : List UserArea} (ranked : RankedIn tickets uas s.ranked) (ordered : Ordered tickets s)
    (here : s.map (userAreaKey ua) = some (tickets ua)) :
    RankedIn tickets (uas ++ [ua]) (insertEltToSortResult s ua).ranked := by
  constructor
  · have entered := (insert_perm s ua).map Entrant.ua
    exact (entered.trans (ranked.everyone.cons ua)).trans (List.perm_append_singleton ua uas).symm
  · exact List.pairwise_map.mpr (insert_ordered ordered here).2
  · intro n
    have before := ranked.ties n
    unfold SortResult.ranked at before ⊢
    rw [List.filter_map] at before ⊢
    rw [List.filter_append, List.reverse_append, ← before]
    unfold insertEltToSortResult
    refine (congrArg (List.map Entrant.ua) (filter_insert (f := fun e : Entrant => tickets e.ua) (x := ⟨ua, none⟩) _ ?_ n)).trans ?_
    · intro e there
      dsimp only
      rw [here, ordered.1 e there]
    · by_cases same : tickets ua = n
      · simp [same, Function.comp_def]
      · simp [same, Function.comp_def]

theorem sortIn_map (map : String → Option Int) (uas : List UserArea) : (sortIn map uas).map = map := by
  have folded : ∀ (uas : List UserArea) (s : SortResult), (uas.foldl insertEltToSortResult s).map = s.map := by
    intro uas
    induction uas with
    | nil => exact fun _ => rfl
    | cons ua rest ih => exact fun s => ih (insertEltToSortResult s ua)
  exact folded uas _

/-- However many are sorted in, they stand in order, and the later one first where two are level. -/
theorem sortIn_ranked (map : String → Option Int) (tickets : UserArea → Int) (uas : List UserArea)
    (scored : ∀ ua ∈ uas, map (userAreaKey ua) = some (tickets ua)) : RankedIn tickets uas (sortIn map uas).ranked := by
  have both : RankedIn tickets uas (sortIn map uas).ranked ∧ Ordered tickets (sortIn map uas) := by
    induction uas using List.reverseRecOn with
    | nil => exact ⟨⟨List.Perm.refl [], List.Pairwise.nil, fun _ => rfl⟩, List.forall_mem_nil _, List.Pairwise.nil⟩
    | append_singleton past ua ih =>
      obtain ⟨ranked, ordered⟩ := ih fun other there => scored other (List.mem_append_left _ there)
      have here : (sortIn map past).map (userAreaKey ua) = some (tickets ua) := by
        rw [sortIn_map]
        exact scored ua (List.mem_append_right _ List.mem_cons_self)
      have last : sortIn map (past ++ [ua]) = insertEltToSortResult (sortIn map past) ua := List.foldl_append
      rw [last]
      exact ⟨insert_ranked ranked ordered here, insert_ordered ordered here⟩
  exact both.1

/-- Two of three have as many tickets: the later of them stands first. -/
theorem sortIn_ranked_three :
    RankedIn (fun ua => if ua.uuid = "b" then 20 else 10) [⟨"1", "a"⟩, ⟨"1", "b"⟩, ⟨"1", "c"⟩]
      [⟨"1", "b"⟩, ⟨"1", "c"⟩, ⟨"1", "a"⟩] :=
  sortIn_ranked (fun key => some (if key = "1|b" then 20 else 10)) _ [⟨"1", "a"⟩, ⟨"1", "b"⟩, ⟨"1", "c"⟩] (by decide)

theorem place_ordered {s : SortResult} (ordered : Ordered tickets s) (here : s.map (userAreaKey ua) = some (tickets ua))
    (held : Int) (remain : List Entrant) :
    Ordered tickets (place ua held remain s).2 ∧ (place ua held remain s).2.map = s.map := by
  unfold place
  split
  · exact ⟨ordered, rfl⟩
  · exact ⟨insert_ordered ordered here, rfl⟩

/-- A fight of two that have been noted. -/
theorem Noted.fight (robot : UserArea → Option Nat) {ua1 ua2 : UserArea} (noted : Noted entrants tickets day)
    (listed1 : ua1 ∈ entrants)
    (listed2 : ua2 ∈ entrants) (known1 : day.sortResult.map (userAreaKey ua1) ≠ none)
    (known2 : day.sortResult.map (userAreaKey ua2) ≠ none) (outcome : Outcome) :
    Noted entrants tickets (calFightResult robot ua1 ua2 outcome day) := by
  obtain ⟨first, second⟩ := playerInfos_mem robot ua1 ua2
  have here2 := noted.of_known listed2 known2
  have here1 : day.sortResult.map (userAreaKey (playerInfos robot ua1 ua2).1) = some (tickets (playerInfos robot ua1 ua2).1) := by
    rcases first with same | same
    · rw [same]
      exact noted.of_known listed1 known1
    · rw [same]
      exact here2
  have placed1 := place_ordered noted.ordered here1 ((settle outcome.winner ua1 ua2 day.ticketDay).2 ua1) day.remainUserArea
  have there2 : day.sortResult.map (userAreaKey (playerInfos robot ua1 ua2).2) = some (tickets (playerInfos robot ua1 ua2).2) := by
    rw [second]
    exact here2
  have placed2 := place_ordered placed1.1 (placed1.2 ▸ there2) ((settle outcome.winner ua1 ua2 day.ticketDay).2 ua2)
    (place (playerInfos robot ua1 ua2).1 ((settle outcome.winner ua1 ua2 day.ticketDay).2 ua1) day.remainUserArea
      day.sortResult).1
  have map : (calFightResult robot ua1 ua2 outcome day).sortResult.map = day.sortResult.map := placed2.2.trans placed1.2
  refine ⟨fun ua listed n found => noted.noted ua listed n (map ▸ found), fun ua listed none_ => ?_, placed2.1⟩
  rw [map] at none_
  rw [calFightResult_ticketDay, settle_other]
  · exact noted.fresh ua listed none_
  · rintro rfl
    exact known1 none_
  · rintro rfl
    exact known2 none_

theorem noted_call (keyed : Keyed entrants) (noted : Noted entrants tickets day) (within : day.everyone ⊆ entrants)
    (outcome : Outcome) : Noted entrants tickets (call robot day outcome) := by
  generalize moved : call robot day outcome = day'
  have moves := call_moves robot day outcome
  rw [moved] at moves
  cases moves with
  | close _ stage => exact ⟨noted.noted, noted.fresh, noted.ordered⟩
  | pair _ stage => exact ⟨noted.noted, noted.fresh, noted.ordered⟩
  | fight outcome stage =>
    rename_i ua1 ua2 rest1 rest2 sOne
    have listed1 : ua1.ua ∈ entrants := within (by simp [Day.everyone, Day.field, stage])
    have listed2 : ua2.ua ∈ entrants := within (by simp [Day.everyone, Day.field, stage])
    have both : Noted entrants tickets (noteBoth ua1.ua ua2.ua day) := (noted.note keyed listed1).note keyed listed2
    have fought := both.fight robot listed1 listed2
      (noteTickets_known (noteTickets_here _ _ _)) (noteTickets_here _ _ _) outcome
    exact ⟨fought.noted, fought.fresh, fought.ordered⟩
  | next _ stage => exact ⟨noted.noted, noted.fresh, noted.ordered⟩
  | stopped _ stage => exact noted

theorem start_noted (entrants : List UserArea) (ticketDay : UserArea → Int) (lists : UserArea → List FightInfo) :
    Noted entrants ticketDay (start entrants ticketDay lists) :=
  ⟨fun _ _ _ found => (nomatch found), fun _ _ _ => rfl, fun _ there => (List.not_mem_nil there).elim, List.Pairwise.nil⟩

theorem noted_run (keyed : Keyed entrants) (underway : Underway day) (noted : Noted entrants tickets day)
    (within : day.everyone ⊆ entrants) (outcomes : List Outcome) : Noted entrants tickets (run (call robot) day outcomes) := by
  induction outcomes generalizing day with
  | nil => exact noted
  | cons outcome rest ih =>
    exact ih (underway_call underway outcome) (noted_call keyed noted within outcome)
      (List.Subset.trans (everyone_subset underway outcome) within)

/-- An area, a bar and a number. -/
theorem robot_key {area uuid : String} {n : Nat} (same : userAreaKey ⟨area, uuid⟩ = userAreaKey ⟨"0", toString n⟩) :
    area = "0" ∧ uuid = toString n := by
  have letters := congrArg String.toList same
  simp only [userAreaKey, String.toList_append] at letters
  have plain : '|' ∉ (toString n).toList := by
    intro there
    exact absurd (toString_digits n '|' there) (by decide)
  match spelled : area.toList with
  | [] =>
    rw [spelled] at letters
    exact absurd (List.cons.inj letters).1 (by decide)
  | [c] =>
    rw [spelled] at letters
    obtain ⟨rfl, rest⟩ := List.cons.inj letters
    exact ⟨String.toList_injective spelled, String.toList_injective (List.cons.inj rest).2⟩
  | c :: d :: cs =>
    rw [spelled] at letters
    have rest : cs ++ "|".toList ++ uuid.toList = (toString n).toList := (List.cons.inj (List.cons.inj letters).2).2
    refine absurd ?_ plain
    rw [← rest]
    simp

theorem gather_keyed (area : String) (uuids : List String) : Keyed (gather area uuids) := by
  intro ua listed other there same
  rcases List.mem_append.mp listed with player | number
  · obtain ⟨uuid, -, rfl⟩ := List.mem_map.mp player
    rcases List.mem_append.mp there with player' | number'
    · obtain ⟨uuid', -, rfl⟩ := List.mem_map.mp player'
      simpa [userAreaKey] using same
    · obtain ⟨i, -, rfl⟩ := List.mem_map.mp number'
      obtain ⟨rfl, rfl⟩ := robot_key same
      rfl
  · obtain ⟨i, -, rfl⟩ := List.mem_map.mp number
    obtain ⟨area', uuid'⟩ := other
    obtain ⟨rfl, rfl⟩ := robot_key same.symm
    rfl

end

/-! ### Those that are still in -/

/-- What the runtime promises of its sort. Entries that have not fought have nothing to compare. -/
structure Conforming (sort : List Entrant → List Entrant) : Prop where
  perm : ∀ userArea, (sort userArea).Perm userArea
  sorted : ∀ userArea, (∀ e ∈ userArea, e.ticketDay ≠ none) → Descending (fun e => e.ticketDay.getD 0) (sort userArea)

/-- The tickets of an entry that is still in. -/
def held (day : Day) (e : Entrant) : Int := e.ticketDay.getD (day.ticketDay e.ua)

/-- The eight of the bracket, the others from the most tickets to the least, and those that are out, by what they came with. -/
def RankedRight (tickets : UserArea → Int) (day : Day) (survivors ranked : List Entrant) : Prop :=
  ∃ finalists rest, ranked = finalists ++ rest ++ day.sortResult.userArea ∧ finalists.length = 8 ∧
    (finalists ++ rest).Perm survivors ∧ Descending (held day) rest ∧
    Descending (fun e => tickets e.ua) day.sortResult.userArea

/-- There is but one other, or nothing to choose between, or those with more than the least are all in the bracket. -/
def Level (day : Day) (survivors : List Entrant) : Prop :=
  survivors.length = 9 ∨ (∀ e ∈ survivors, ∀ other ∈ survivors, held day e ≤ held day other) ∨
    (∀ e ∈ survivors, e.ticketDay ≠ none) ∧
      survivors.countP (fun e => ∃ other ∈ survivors, held day other < held day e) ≤ 8

section
variable {π κ : Type} [DecidableEq κ] {sort : List Entrant → List Entrant} {day : Day} {survivors : List Entrant}
  {tickets : UserArea → Int}

theorem foldl_cons (moved userArea : List Entrant) :
    moved.foldl (fun userArea ua => ua :: userArea) userArea = moved.reverse ++ userArea := by
  induction moved generalizing userArea with
  | nil => rfl
  | cons ua rest ih =>
    rw [List.foldl_cons, ih, List.reverse_cons, List.append_assoc]
    rfl

/-- The others come out in reverse. -/
theorem finalSort_eq (key : π → κ) (outcome : Pvp.Round → Entrant → Entrant → Pvp.Fought π) (playerInfoList : List π)
    (sorts : (sort survivors).Perm survivors) (many : 8 < survivors.length) (s : SortResult) :
    ∃ final8, final8.Perm ((sort survivors).take 8) ∧ finalSort sort (fightF8 key outcome playerInfoList) survivors s =
      some (final8 ++ ((sort survivors).drop 8).reverse ++ s.userArea) := by
  have length : (sort survivors).length = survivors.length := sorts.length_eq
  have best : ((sort survivors).take 8).length = 8 := by
    rw [List.length_take]
    omega
  obtain ⟨final8, fought, eight⟩ := fightF8_perm key outcome playerInfoList best
  refine ⟨final8, eight, ?_⟩
  rw [finalSort, if_neg (by omega)]
  simp only [length, gt_iff_lt, many, if_true, fought, Option.map_some, foldl_cons, List.append_assoc]

/-- One sort leaves them right if and only if it leaves what follows the eight in ascending order. -/
theorem right_iff (key : π → κ) (outcome : Pvp.Round → Entrant → Entrant → Pvp.Fought π) (playerInfoList : List π)
    (sorts : (sort survivors).Perm survivors) (many : 8 < survivors.length) (stage : day.stage = .finished survivors)
    (ordered : Ordered tickets day.sortResult) :
    (∃ ranked, fightPvpDay sort (fightF8 key outcome playerInfoList) day = some ranked ∧
        RankedRight tickets day survivors ranked) ↔ Descending (held day) ((sort survivors).drop 8).reverse := by
  obtain ⟨final8, best, answered⟩ := finalSort_eq key outcome playerInfoList sorts many day.sortResult
  have eight : final8.length = 8 := by
    rw [best.length_eq, List.length_take, sorts.length_eq]
    omega
  have ranking : fightPvpDay sort (fightF8 key outcome playerInfoList) day =
      some (final8 ++ ((sort survivors).drop 8).reverse ++ day.sortResult.userArea) := by
    rw [fightPvpDay, stage]
    exact answered
  rw [ranking]
  constructor
  · rintro ⟨ranked, same, finalists, rest, parts, eight', -, sorted, -⟩
    have whole := (Option.some.inj same).trans parts
    have front := List.append_cancel_right whole
    rw [(List.append_inj front (eight.trans eight'.symm)).2]
    exact sorted
  · intro sorted
    refine ⟨_, rfl, final8, _, rfl, eight, ?_, sorted, ordered.2⟩
    refine (best.append (List.reverse_perm _)).trans ?_
    rw [List.take_append_drop]
    exact sorts

/-- A sort that has entries to compare leaves no choice. -/
theorem sorted_iff (conforming : Conforming sort) (fought : ∀ e ∈ survivors, e.ticketDay ≠ none) :
    Descending (held day) ((sort survivors).drop 8).reverse ↔
      survivors.countP (fun e => ∃ other ∈ survivors, held day other < held day e) ≤ 8 := by
  have perm := conforming.perm survivors
  have sorted : Descending (held day) (sort survivors) := by
    refine (conforming.sorted survivors fought).imp_of_mem fun there there' less => ?_
    obtain ⟨n, found⟩ := Option.ne_none_iff_exists'.mp (fought _ (perm.subset there))
    obtain ⟨n', found'⟩ := Option.ne_none_iff_exists'.mp (fought _ (perm.subset there'))
    simpa [held, found, found'] using less
  rw [descending_reverse_drop sorted, ← perm.countP_eq]
  simp only [perm.mem_iff]

theorem descending_conforming : Conforming descending := by
  refine ⟨descending_perm, fun userArea _ => ?_⟩
  refine (List.pairwise_mergeSort ?_ ?_ userArea).imp fun less => by simpa using less
  · intro a b c
    simp only [decide_eq_true_eq]
    omega
  · intro a b
    simp only [Bool.or_eq_true, decide_eq_true_eq]
    omega

/-- Two of ten can be left last, in the order that is wrong. -/
theorem exists_sort (few : ∃ e ∈ survivors, e.ticketDay = none) {x y : Entrant} (first : x ∈ survivors) (second : y ∈ survivors)
    (different : x ≠ y) :
    ∃ sort, Conforming sort ∧ ∃ others, sort survivors = others ++ [x, y] := by
  obtain ⟨e, there, idle⟩ := few
  have second' : y ∈ survivors.erase x := (List.mem_erase_of_ne different.symm).mpr second
  have seats : (((survivors.erase x).erase y) ++ [x, y]).Perm survivors := by
    refine List.perm_append_comm.trans ?_
    exact ((List.perm_cons_erase second').symm.cons x).trans (List.perm_cons_erase first).symm
  refine ⟨Function.update descending survivors (((survivors.erase x).erase y) ++ [x, y]), ⟨?_, ?_⟩, _, Function.update_self ..⟩
  · intro userArea
    by_cases same : userArea = survivors
    · rw [same, Function.update_self]
      exact seats
    · rw [Function.update_of_ne same]
      exact descending_perm userArea
  · intro userArea fought
    have other : userArea ≠ survivors := by
      rintro rfl
      exact fought e there idle
    rw [Function.update_of_ne other]
    exact descending_conforming.sorted userArea fought

/-- Whatever the sort does with what it cannot compare, the others come out right just when they are level. -/
theorem level_iff (many : 8 < survivors.length) :
    (∀ sort, Conforming sort → Descending (held day) ((sort survivors).drop 8).reverse) ↔ Level day survivors := by
  constructor
  · intro right
    by_cases fought : ∀ e ∈ survivors, e.ticketDay ≠ none
    · exact .inr (.inr ⟨fought, (sorted_iff descending_conforming fought).mp (right descending descending_conforming)⟩)
    · push Not at fought
      by_contra uneven
      unfold Level at uneven
      push Not at uneven
      obtain ⟨long, ⟨x, first, y, second, less⟩, -⟩ := uneven
      have different : x ≠ y := by
        rintro rfl
        omega
      obtain ⟨sort, conforming, others, last⟩ := exists_sort fought first second different
      have length := (conforming.perm survivors).length_eq
      rw [last, List.length_append, List.length_cons, List.length_singleton] at length
      have sorted := right sort conforming
      rw [last, List.drop_append_of_le_length (by omega), Descending, List.pairwise_reverse] at sorted
      have wrong := (List.pairwise_append.mp sorted).2.1
      simp only [List.pairwise_pair] at wrong
      omega
  · rintro level sort conforming
    have perm := conforming.perm survivors
    rcases level with nine | same | ⟨fought, few⟩
    · have single : ((sort survivors).drop 8).length = 1 := by
        rw [List.length_drop, perm.length_eq, nine]
      obtain ⟨e, only⟩ := List.length_eq_one_iff.mp single
      rw [only]
      exact List.pairwise_singleton _ e
    · refine List.pairwise_of_forall_mem_list fun e there other there' => ?_
      have inside : ∀ e ∈ ((sort survivors).drop 8).reverse, e ∈ survivors := fun e there =>
        perm.subset (List.mem_of_mem_drop (List.mem_reverse.mp there))
      exact same other (inside other there') e (inside e there)
    · exact (sorted_iff conforming fought).mpr few

/-- The rounds leave those that are out in order. -/
theorem rounds_ordered (robot : UserArea → Option Nat) (area : String) (uuids : List String) (ticketDay : UserArea → Int)
    (lists : UserArea → List FightInfo) (outcomes : List Outcome) :
    Ordered ticketDay (rounds robot (gather area uuids) ticketDay lists outcomes).sortResult :=
  (noted_run (gather_keyed area uuids) (start_underway _ ticketDay lists) (start_noted _ ticketDay lists)
    (start_everyone _ ticketDay lists ▸ List.Subset.refl _) outcomes).ordered

/-- **Final order.** Those that are out are in order, behind everybody who is not. The others behind the bracket are in order,
whatever the sort does, if and only if they are level. -/
theorem final_order_iff (robot : UserArea → Option Nat) (area : String) (uuids : List String) (ticketDay : UserArea → Int)
    (lists : UserArea → List FightInfo) (outcomes : List Outcome) (key : π → κ)
    (outcomeF8 : Pvp.Round → Entrant → Entrant → Pvp.Fought π) (playerInfoList : List π)
    (stage : (rounds robot (gather area uuids) ticketDay lists outcomes).stage = .finished survivors)
    (many : 8 < survivors.length) :
    (∀ sort, Conforming sort →
        ∃ ranked, fightPvpDay sort (fightF8 key outcomeF8 playerInfoList)
            (rounds robot (gather area uuids) ticketDay lists outcomes) = some ranked ∧
          RankedRight ticketDay (rounds robot (gather area uuids) ticketDay lists outcomes) survivors ranked) ↔
      Level (rounds robot (gather area uuids) ticketDay lists outcomes) survivors := by
  have ordered := rounds_ordered robot area uuids ticketDay lists outcomes
  rw [← level_iff many]
  refine forall_congr' fun sort => forall_congr' fun conforming => ?_
  exact right_iff key outcomeF8 playerInfoList (conforming.perm survivors) many stage ordered

end

deriving instance DecidableEq for Stage

/-- Ten players, every other one with more tickets than its neighbours. -/
def ten : List String := ["a", "b", "c", "d", "e", "f", "g", "h", "i", "j"]

def saved (ua : UserArea) : Int :=
  if ua.area = "0" then 0
  else if ua.uuid ∈ ["b", "d", "f", "h", "j"] then 100
  else if ua.uuid = "a" then 10
  else if ua.uuid = "c" then 20
  else if ua.uuid = "e" then 30
  else if ua.uuid = "g" then 40 else 50

/-- The first side wins every fight. -/
def firstWins : List Outcome := List.replicate (calls 100) ⟨1, 7⟩

def tenDay : Day := rounds twelve (gather "1" ten) saved (fun _ => []) firstWins

/-- All ten stay in. The last two by their tickets are `c` with 40 and `a` with 20. -/
def tenLeft : List Entrant :=
  [⟨⟨"1", "i"⟩, some 100⟩, ⟨⟨"1", "j"⟩, some 50⟩, ⟨⟨"1", "g"⟩, some 80⟩, ⟨⟨"1", "h"⟩, some 60⟩, ⟨⟨"1", "e"⟩, some 60⟩,
    ⟨⟨"1", "f"⟩, some 70⟩, ⟨⟨"1", "c"⟩, some 40⟩, ⟨⟨"1", "d"⟩, some 80⟩, ⟨⟨"1", "a"⟩, some 20⟩, ⟨⟨"1", "b"⟩, some 90⟩]

theorem tenDay_stage : tenDay.stage = .finished tenLeft := by decide +kernel

/-- Twenty is ranked before forty. -/
theorem tenDay_unordered :
    tenDay.stage = .finished tenLeft ∧ 8 < tenLeft.length ∧ Conforming descending ∧
      ¬ ∃ ranked, fightPvpDay descending (fightF8 id (fun _ _ _ => ⟨(), (), 1, 7⟩) []) tenDay = some ranked ∧
        RankedRight saved tenDay tenLeft ranked := by
  refine ⟨tenDay_stage, by decide, descending_conforming, ?_⟩
  rw [right_iff id _ [] (descending_perm _) (by decide) tenDay_stage (rounds_ordered ..),
    sorted_iff descending_conforming (by decide)]
  decide +kernel

theorem final_order_iff_ten :
    (∀ sort, Conforming sort →
        ∃ ranked, fightPvpDay sort (fightF8 id (fun _ _ _ => ⟨(), (), 1, 7⟩) []) tenDay = some ranked ∧
          RankedRight saved tenDay tenLeft ranked) ↔ Level tenDay tenLeft :=
  final_order_iff twelve "1" ten saved (fun _ => []) firstWins id (fun _ _ _ => ⟨(), (), 1, 7⟩) [] tenDay_stage (by decide)

end Tinygame.DayFight
