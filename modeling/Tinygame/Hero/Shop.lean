import Tinygame.Base.Loop
import Tinygame.Base.Run
import Tinygame.Bag.Compose

/-!
# The hero shop

`refreshHeroShop` and `shopHero` of `hero_handle.js`. The book of summons has five slots of the shop, the refreshes
left, and a time: for every whole interval since then a call to refresh gives one refresh more, as long as there are
fewer than the limit, and moves the time on. A slot that was bought from holds the negated id.
-/

namespace Tinygame.Hero
open Bag (Id BagList Moment Record ComposeRow)

def heroRefreshTimeInterval : Int := 2 * 60 * 60
def heroRefreshTimeLimit : Int := 3
def heroRefreshTimeDailyLimit : Int := 3

/-- The fields of the book that belong to the shop. -/
structure ShopBook where
  shops : Obj Int
  refreshNums : Int
  time : Int

structure ShopTables where
  Item : Bag.ItemTable
  HeroShop : Nat → List Int
  Compose : Obj ComposeRow
  /-- The keys are the ids of items. -/
  positive : ∀ id : Int, Compose.has (toString id) = true → 0 < id

variable (tables : ShopTables)

def randomHeroShop (pos draw : Nat) : Int :=
  if (tables.HeroShop pos).length ≤ 0 then 0 else (tables.HeroShop pos).getD (draw % (tables.HeroShop pos).length) 0

def slotName (shopId : Id) : String := "shop" ++ shopId.name

def drawShops (draws : Nat → Nat) (shops : Obj Int) : Obj Int :=
  ([1, 2, 3, 4, 5] : List Nat).foldl
    (fun (shops : Obj Int) (pos : Nat) => shops.set (slotName (.number pos)) (randomHeroShop tables pos (draws pos))) shops

def createHeroBookInfo (draws : Nat → Nat) (now : Int) : ShopBook := ⟨drawShops tables draws ∅, 3, now⟩

/-! ### Refreshing -/

/-- The body of the loop. -/
def catchUp (book : ShopBook) : ShopBook :=
  { book with
    time := book.time + heroRefreshTimeInterval
    refreshNums := if book.refreshNums < heroRefreshTimeDailyLimit then book.refreshNums + 1 else book.refreshNums }

def calRefreshHeroShopTime (now : Int) (book : ShopBook) : ShopBook :=
  whileDo (fun book => (now - book.time).toNat) (fun book => decide (now - book.time > heroRefreshTimeInterval)) catchUp book

def rollHeroShop (draws : Nat → Nat) (book : ShopBook) : Bool × ShopBook :=
  let book := { book with refreshNums := book.refreshNums - 1 }
  if randomHeroShop tables 1 (draws 1) = 0 then (false, book) else (true, { book with shops := drawShops tables draws book.shops })

/-- The book when the refreshes are counted up to now. -/
def countRefreshes (now : Int) (book : ShopBook) : ShopBook :=
  if now - book.time > heroRefreshTimeInterval then calRefreshHeroShopTime now book else book

def wantsRefresh (isRefresh : Id) (book : ShopBook) : Bool := 0 < book.refreshNums ∧ isRefresh.parseInt ≠ some 0

/-- The book, and the time that is left or -1. -/
def refreshHeroShop (isRefresh : Id) (now : Int) (draws : Nat → Nat) (book : ShopBook) : ShopBook × Int :=
  let book := countRefreshes now book
  let durTime := heroRefreshTimeInterval - (now - book.time)
  if wantsRefresh isRefresh book then
    let rolled := rollHeroShop tables draws book
    if !rolled.1 then (rolled.2, -1) else (rolled.2, durTime)
  else (book, durTime)

/-! ### Buying -/

def checkHeroShopLevel (shopId : Id) (level : Int) : Bool :=
  if shopId = .number 1 then true
  else if shopId = .number 2 ∧ level ≥ 10 then true
  else if shopId = .number 3 ∧ level ≥ 20 then true
  else if shopId = .number 4 ∧ level ≥ 30 then true
  else if shopId = .number 5 ∧ level ≥ 40 then true
  else false

def takeMaterial (bagList : BagList) (entry : Id × Int) : Option BagList :=
  let deleted := Bag.delItem entry.1 entry.2 bagList
  if deleted.1 then some deleted.2 else none

/-- The book, the bag and the record of the bag, or nothing when the code returns false. -/
def shopHero (shopId : Id) (level : Int) (moments : Nat → Moment) (bagList : BagList) (book : ShopBook) :
    Option (ShopBook × BagList × Record) := do
  guard (checkHeroShopLevel shopId level = true)
  let shop ← book.shops.get? (slotName shopId)
  let delToItem ← tables.Compose.get? (toString shop)
  let bagList ← delToItem.demandItemId.foldlM takeMaterial bagList
  let awarded := Bag.getItemAward tables.Item (.number shop) 1 moments bagList ⟨none, none⟩
  guard (awarded.1 = true)
  return ({ book with shops := book.shops.set (slotName shopId) (shop * -1) }, awarded.2)

/-! ### Requests -/

/-- A purchase comes with the level and the bag that are read for it. -/
inductive ShopRequest
  | refreshHeroShop (isRefresh : Id) (draws : Nat → Nat)
  | shopHero (shopId : Id) (level : Int) (moments : Nat → Moment) (bagList : BagList)

structure ShopCall where
  now : Int
  request : ShopRequest

/-- The time a call is told. -/
def toldTime (book : ShopBook) (call : ShopCall) : Option Int :=
  match call.request with
  | .refreshHeroShop isRefresh draws =>
    let time := (refreshHeroShop tables isRefresh call.now draws book).2
    if time < 0 then none else some time
  | .shopHero .. => none

/-- The book that is stored after a call: a failed one stores nothing. -/
def serveShop (book : ShopBook) (call : ShopCall) : ShopBook :=
  match call.request with
  | .refreshHeroShop isRefresh draws =>
    let refreshed := refreshHeroShop tables isRefresh call.now draws book
    if refreshed.2 < 0 then book else refreshed.1
  | .shopHero shopId level moments bagList =>
    match shopHero tables shopId level moments bagList book with
    | some bought => bought.1
    | none => book

/-- The call refreshes the shop. -/
def refreshes (book : ShopBook) (call : ShopCall) : Bool :=
  match call.request with
  | .refreshHeroShop isRefresh draws =>
    let book := countRefreshes call.now book
    wantsRefresh isRefresh book && (rollHeroShop tables draws book).1
  | .shopHero .. => false

/-- The call buys from the slot. -/
def buysFrom (slot : String) (book : ShopBook) (call : ShopCall) : Bool :=
  match call.request with
  | .refreshHeroShop .. => false
  | .shopHero shopId level moments bagList => slotName shopId = slot && (shopHero tables shopId level moments bagList book).isSome

/-! ### The loop -/

variable {tables : ShopTables} {book : ShopBook} {call : ShopCall} {now : Int}

theorem catchUp_lowers (now : Int) : Lowers (fun book : ShopBook => (now - book.time).toNat)
    (fun book => decide (now - book.time > heroRefreshTimeInterval)) catchUp := by
  intro book going
  have late := of_decide_eq_true going
  simp only [catchUp, heroRefreshTimeInterval] at late ⊢
  omega

theorem calRefreshHeroShopTime_eq (now : Int) (book : ShopBook) : calRefreshHeroShopTime now book =
    if now - book.time > heroRefreshTimeInterval then calRefreshHeroShopTime now (catchUp book) else book := by
  have unrolled := whileDo_eq (catchUp_lowers now) book
  simp only [decide_eq_true_eq] at unrolled
  exact unrolled

/-- The book after `k` intervals were counted. -/
structure Counted (now : Int) (k : Nat) (before after : ShopBook) : Prop where
  shops : after.shops = before.shops
  time : after.time = before.time + heroRefreshTimeInterval * k
  late : k = 0 ∨ after.time < now
  caught : now - after.time ≤ heroRefreshTimeInterval
  more : before.refreshNums ≤ after.refreshNums
  atMost : after.refreshNums ≤ before.refreshNums + k
  limit : before.refreshNums ≤ heroRefreshTimeDailyLimit → after.refreshNums ≤ heroRefreshTimeDailyLimit

theorem Counted.time_le {k : Nat} {before after : ShopBook} {latest : Int} (counted : Counted now k before after)
    (start : before.time ≤ latest) (here : now ≤ latest) : after.time ≤ latest := by
  rcases counted.late with rfl | late
  · have same := counted.time
    simp only [Nat.cast_zero, Int.mul_zero, Int.add_zero] at same
    omega
  · omega

theorem counted_calRefreshHeroShopTime (now : Int) (book : ShopBook) : ∃ k, Counted now k book (calRefreshHeroShopTime now book) := by
  apply whileDo_related (R := fun before after => ∃ k, Counted now k before after) (catchUp_lowers now)
  · intro book stopped
    have caught : now - book.time ≤ heroRefreshTimeInterval := by simpa using of_decide_eq_false stopped
    exact ⟨0, ⟨rfl, by simp, .inl rfl, caught, Int.le_refl _, by simp, id⟩⟩
  · intro before after going later
    obtain ⟨k, later⟩ := later
    have waiting := of_decide_eq_true going
    refine ⟨k + 1, later.shops, ?_, ?_, later.caught, ?_, ?_, ?_⟩
    · rw [later.time]
      simp only [catchUp]
      rw [Nat.cast_add, Nat.cast_one, Int.mul_add, Int.mul_one]
      omega
    · right
      rcases later.late with rfl | late
      · rw [later.time]
        simp only [catchUp, Nat.cast_zero]
        omega
      · exact late
    · have more := later.more
      simp only [catchUp] at more
      split at more <;> omega
    · have atMost := later.atMost
      simp only [catchUp] at atMost
      push_cast
      split at atMost <;> omega
    · intro low
      apply later.limit
      simp only [catchUp]
      split <;> omega

theorem counted_countRefreshes (now : Int) (book : ShopBook) : ∃ k, Counted now k book (countRefreshes now book) := by
  unfold countRefreshes
  split
  · exact counted_calRefreshHeroShopTime now book
  · rename_i early
    exact ⟨0, ⟨rfl, by simp, .inl rfl, by omega, Int.le_refl _, by simp, id⟩⟩

/-! ### One call -/

theorem serveShop_refresh (tables : ShopTables) {isRefresh : Id} {draws : Nat → Nat}
    (request : call.request = .refreshHeroShop isRefresh draws) (book : ShopBook) :
    (refreshes tables book call = true ∧ 0 < (countRefreshes call.now book).refreshNums ∧
      serveShop tables book call = { countRefreshes call.now book with
        shops := drawShops tables draws (countRefreshes call.now book).shops
        refreshNums := (countRefreshes call.now book).refreshNums - 1 }) ∨
    refreshes tables book call = false ∧
      (serveShop tables book call = countRefreshes call.now book ∨ serveShop tables book call = book) := by
  obtain ⟨k, counted⟩ := counted_countRefreshes call.now book
  have left : 0 ≤ heroRefreshTimeInterval - (call.now - (countRefreshes call.now book).time) := by
    have caught := counted.caught
    omega
  unfold refreshes serveShop
  rw [request]
  dsimp only
  unfold refreshHeroShop
  dsimp only
  by_cases wants : wantsRefresh isRefresh (countRefreshes call.now book) = true
  · have some_ : 0 < (countRefreshes call.now book).refreshNums := (of_decide_eq_true wants).1
    unfold rollHeroShop
    by_cases empty : randomHeroShop tables 1 (draws 1) = 0
    · right
      simp [wants, empty]
    · left
      simp [wants, empty, some_, Int.not_lt.mpr left]
  · right
    simp [wants, Int.not_lt.mpr left]

/-- What is bought has a positive id, which is negated. -/
theorem serveShop_shopHero (tables : ShopTables) {shopId : Id} {level : Int} {moments : Nat → Moment} {bagList : BagList}
    (request : call.request = .shopHero shopId level moments bagList) (book : ShopBook) :
    refreshes tables book call = false ∧
      ((serveShop tables book call = book ∧ ∀ slot, buysFrom tables slot book call = false) ∨
      ∃ shop, book.shops.get? (slotName shopId) = some shop ∧ 0 < shop ∧
        serveShop tables book call = { book with shops := book.shops.set (slotName shopId) (shop * -1) } ∧
        ∀ slot, buysFrom tables slot book call = decide (slotName shopId = slot)) := by
  unfold refreshes serveShop buysFrom
  rw [request]
  dsimp only
  refine ⟨rfl, ?_⟩
  cases bought : shopHero tables shopId level moments bagList book with
  | none => exact .inl ⟨rfl, by simp⟩
  | some result =>
    right
    unfold shopHero at bought
    obtain ⟨-, -, bought⟩ := Option.bind_eq_some_iff.mp bought
    obtain ⟨shop, there, bought⟩ := Option.bind_eq_some_iff.mp bought
    obtain ⟨row, composed, bought⟩ := Option.bind_eq_some_iff.mp bought
    obtain ⟨taken, -, bought⟩ := Option.bind_eq_some_iff.mp bought
    obtain ⟨-, -, bought⟩ := Option.bind_eq_some_iff.mp bought
    have known : tables.Compose.has (toString shop) = true := Obj.has_iff.mpr ⟨row, composed⟩
    refine ⟨shop, there, tables.positive shop known, ?_, by simp⟩
    rw [← Option.some.inj bought]

/-- The number of refreshes left is within its bounds. -/
def WithinLimit (book : ShopBook) : Prop := 0 ≤ book.refreshNums ∧ book.refreshNums ≤ heroRefreshTimeLimit

theorem serveShop_withinLimit (tables : ShopTables) (book : ShopBook) (call : ShopCall) (within : WithinLimit book) :
    WithinLimit (serveShop tables book call) := by
  obtain ⟨low, high⟩ := within
  cases request : call.request with
  | refreshHeroShop isRefresh draws =>
    obtain ⟨k, counted⟩ := counted_countRefreshes call.now book
    have more := counted.more
    have limit : (countRefreshes call.now book).refreshNums ≤ heroRefreshTimeLimit := counted.limit high
    rcases serveShop_refresh tables request book with ⟨-, some_, after⟩ | ⟨-, after | after⟩ <;> rw [after]
    · constructor <;> dsimp only <;> omega
    · constructor <;> omega
    · exact ⟨low, high⟩
  | shopHero shopId level moments bagList =>
    rcases serveShop_shopHero tables request book with ⟨-, ⟨after, -⟩ | ⟨shop, -, -, after, -⟩⟩ <;> rw [after] <;>
      exact ⟨low, high⟩

/-- The time of the book is never ahead. -/
theorem serveShop_time (tables : ShopTables) {book : ShopBook} {call : ShopCall} {latest : Int} (before : book.time ≤ latest)
    (here : call.now ≤ latest) : (serveShop tables book call).time ≤ latest := by
  cases request : call.request with
  | refreshHeroShop isRefresh draws =>
    obtain ⟨k, counted⟩ := counted_countRefreshes call.now book
    have time := counted.time_le before here
    rcases serveShop_refresh tables request book with ⟨-, -, after⟩ | ⟨-, after | after⟩ <;> rw [after]
    · exact time
    · exact time
    · exact before
  | shopHero shopId level moments bagList =>
    rcases serveShop_shopHero tables request book with ⟨-, ⟨after, -⟩ | ⟨shop, -, -, after, -⟩⟩ <;> rw [after] <;> exact before

theorem refreshHeroShop_time (tables : ShopTables) (isRefresh : Id) (now : Int) (draws : Nat → Nat) (book : ShopBook) :
    (refreshHeroShop tables isRefresh now draws book).2 = -1 ∨
    (refreshHeroShop tables isRefresh now draws book).2 = heroRefreshTimeInterval - (now - (countRefreshes now book).time) := by
  unfold refreshHeroShop
  dsimp only
  split
  · split
    · exact .inl rfl
    · exact .inr rfl
  · exact .inr rfl

theorem toldTime_bounds {time : Int} (started : book.time ≤ call.now) (told : toldTime tables book call = some time) :
    0 ≤ time ∧ time ≤ heroRefreshTimeInterval := by
  cases request : call.request with
  | refreshHeroShop isRefresh draws =>
    obtain ⟨k, counted⟩ := counted_countRefreshes call.now book
    have before := counted.time_le started (Int.le_refl _)
    have caught := counted.caught
    unfold toldTime at told
    rw [request] at told
    dsimp only at told
    split at told
    · cases told
    · rename_i low
      have said := Option.some.inj told
      rcases refreshHeroShop_time tables isRefresh call.now draws book with failed | left <;> omega
  | shopHero shopId level moments bagList =>
    unfold toldTime at told
    rw [request] at told
    cases told

/-! ### Windows -/

/-- `n` refreshes were made since `start`: until a refresh request came none, and from then on the refreshes left and made
come out of the limit and of `k` intervals that were counted. -/
def Spent (start last : Int) (n : Nat) (book : ShopBook) : Prop :=
  WithinLimit book ∧ (n = 0 ∨ ∃ k : Nat, n + book.refreshNums ≤ heroRefreshTimeLimit + k ∧
    start - heroRefreshTimeInterval + heroRefreshTimeInterval * k ≤ book.time ∧ (k = 0 ∨ book.time < last))

theorem serveShop_spent (tables : ShopTables) (start last : Int) (n : Nat) (book : ShopBook) (call : ShopCall)
    (spent : Spent start last n book)
    (inside : start ≤ call.now ∧ call.now ≤ last) :
    Spent start last (n + (refreshes tables book call).toNat) (serveShop tables book call) := by
  refine ⟨serveShop_withinLimit tables book call spent.1, ?_⟩
  obtain ⟨within, spent⟩ := spent
  cases request : call.request with
  | refreshHeroShop isRefresh draws =>
    obtain ⟨j, counted⟩ := counted_countRefreshes call.now book
    have budget : ∃ k : Nat, n + (countRefreshes call.now book).refreshNums ≤ heroRefreshTimeLimit + k ∧
        start - heroRefreshTimeInterval + heroRefreshTimeInterval * k ≤ (countRefreshes call.now book).time ∧
        (k = 0 ∨ (countRefreshes call.now book).time < last) := by
      have limit : (countRefreshes call.now book).refreshNums ≤ heroRefreshTimeLimit := counted.limit within.2
      have caught := counted.caught
      have atMost := counted.atMost
      have time := counted.time
      rcases spent with rfl | ⟨k, sum, reached, early⟩
      · refine ⟨0, ?_, ?_, .inl rfl⟩
        · simpa using limit
        · omega
      · refine ⟨k + j, ?_, ?_, ?_⟩
        · push_cast
          omega
        · rw [Nat.cast_add, Int.mul_add]
          omega
        · rcases counted.late with rfl | late
          · simp only [Nat.cast_zero, Int.mul_zero, Int.add_zero] at time
            rcases early with rfl | early
            · exact .inl rfl
            · exact .inr (time ▸ early)
          · right
            omega
    obtain ⟨k, sum, reached, early⟩ := budget
    rcases serveShop_refresh tables request book with ⟨performed, -, after⟩ | ⟨kept, after⟩
    · right
      rw [performed, after]
      refine ⟨k, ?_, reached, early⟩
      simp only [Bool.toNat_true]
      push_cast
      omega
    · rw [kept]
      rcases after with after | after
      · rw [after]
        exact .inr ⟨k, sum, reached, early⟩
      · rw [after]
        exact spent
  | shopHero shopId level moments bagList =>
    obtain ⟨kept, ⟨after, -⟩ | ⟨shop, -, -, after, -⟩⟩ := serveShop_shopHero tables request book <;> rw [kept, after] <;>
      exact spent

/-- The slot was bought from at most once, and then holds no id of an item. -/
def SoldOnce (slot : String) (n : Nat) (book : ShopBook) : Prop :=
  n = 0 ∨ n = 1 ∧ ∀ shop, book.shops.get? slot = some shop → shop ≤ 0

theorem serveShop_soldOnce (tables : ShopTables) (slot : String) (n : Nat) (book : ShopBook) (call : ShopCall) (sold : SoldOnce slot n book)
    (kept : refreshes tables book call = false) :
    SoldOnce slot (n + (buysFrom tables slot book call).toNat) (serveShop tables book call) := by
  cases request : call.request with
  | refreshHeroShop isRefresh draws =>
    have none_ : buysFrom tables slot book call = false := by
      unfold buysFrom
      rw [request]
    obtain ⟨k, counted⟩ := counted_countRefreshes call.now book
    rcases serveShop_refresh tables request book with ⟨performed, -⟩ | ⟨-, after | after⟩
    · rw [kept] at performed
      cases performed
    · rw [none_, after]
      unfold SoldOnce
      rw [counted.shops]
      exact sold
    · rw [none_, after]
      exact sold
  | shopHero shopId level moments bagList =>
    obtain ⟨-, ⟨after, none_⟩ | ⟨shop, there, positive, after, bought⟩⟩ := serveShop_shopHero tables request book
    · rw [none_ slot, after]
      exact sold
    · rw [bought slot, after]
      by_cases here : slotName shopId = slot
      · subst here
        rcases sold with rfl | ⟨-, gone⟩
        · right
          refine ⟨by simp, ?_⟩
          intro negated found
          rw [Obj.get?_set_self] at found
          rw [← Option.some.inj found]
          omega
        · have none_ := gone shop there
          omega
      · rw [decide_eq_false here]
        rcases sold with rfl | ⟨rfl, gone⟩
        · exact .inl rfl
        · right
          refine ⟨rfl, ?_⟩
          intro other found
          rw [Obj.get?_set_of_ne _ _ (Ne.symm here)] at found
          exact gone other found

/-! ### Runs -/

/-- The intervals in a span of time, a begun one counted as a whole. -/
def intervalsIn (t : Int) : Int := (t + heroRefreshTimeInterval - 1) / heroRefreshTimeInterval

theorem Spent.bound {start last : Int} {n : Nat} (spent : Spent start last n book) (ordered : start ≤ last) :
    (n : Int) ≤ heroRefreshTimeLimit + intervalsIn (last - start) := by
  obtain ⟨⟨low, -⟩, rfl | ⟨k, sum, reached, early⟩⟩ := spent
  · unfold intervalsIn heroRefreshTimeLimit heroRefreshTimeInterval
    omega
  · have enough : (k : Int) ≤ intervalsIn (last - start) := by
      unfold intervalsIn
      unfold heroRefreshTimeInterval at reached ⊢
      rcases early with rfl | early <;> omega
    omega

variable {calls past later : List ShopCall} {created : Int}

theorem stored_time (tables : ShopTables) (draws : Nat → Nat) {latest : Int} (start : created ≤ latest)
    (each : ∀ call ∈ past, call.now ≤ latest) :
    (run (serveShop tables) (createHeroBookInfo tables draws created) past).time ≤ latest := by
  have keep : ∀ (book : ShopBook) (call : ShopCall), book.time ≤ latest → call.now ≤ latest →
      (serveShop tables book call).time ≤ latest := fun _ _ => serveShop_time tables
  apply run_invariant keep
  · exact start
  · exact along_of_forall (fun call member _ => each call member) _

theorem window_inside {window : List ShopCall} {first last : ShopCall}
    (ordered : ((past ++ window ++ later).map ShopCall.now).Pairwise (· ≤ ·)) (head : window.head? = some first)
    (foot : window.getLast? = some last) : ∀ call ∈ window, first.now ≤ call.now ∧ call.now ≤ last.now := by
  have sorted : (window.map ShopCall.now).Pairwise (· ≤ ·) := by
    rw [List.append_assoc, List.map_append, List.map_append] at ordered
    exact (List.pairwise_append.mp (List.pairwise_append.mp ordered).2.1).1
  intro call member
  constructor
  · obtain ⟨rest, rfl⟩ := List.head?_eq_some_iff.mp head
    rcases List.mem_cons.mp member with rfl | there
    · exact Int.le_refl _
    · exact (List.pairwise_cons.mp sorted).1 _ (List.mem_map_of_mem there)
  · obtain ⟨front, rfl⟩ := List.getLast?_eq_some_iff.mp foot
    rw [List.map_append] at sorted
    rcases List.mem_append.mp member with there | here
    · exact (List.pairwise_append.mp sorted).2.2 _ (List.mem_map_of_mem there) _ (by simp)
    · rw [List.mem_singleton.mp here]

theorem heroShop_limited (tables : ShopTables) (draws : Nat → Nat) (created : Int) (calls : List ShopCall)
    (ordered : (created :: calls.map ShopCall.now).Pairwise (· ≤ ·)) :
    let book := run (serveShop tables) (createHeroBookInfo tables draws created)
    (∀ past later, calls = past ++ later → 0 ≤ (book past).refreshNums ∧ (book past).refreshNums ≤ heroRefreshTimeLimit) ∧
    (∀ past call later, calls = past ++ call :: later → ∀ time, toldTime tables (book past) call = some time →
      0 ≤ time ∧ time ≤ heroRefreshTimeInterval) ∧
    (∀ now book, now - (calRefreshHeroShopTime now book).time ≤ heroRefreshTimeInterval ∧
      calRefreshHeroShopTime now book =
        if now - book.time > heroRefreshTimeInterval then calRefreshHeroShopTime now (catchUp book) else book) ∧
    (∀ past window later first last, calls = past ++ window ++ later → window.head? = some first → window.getLast? = some last →
      (tally (serveShop tables) (refreshes tables) (book past) window : Int) ≤
        heroRefreshTimeLimit + intervalsIn (last.now - first.now)) ∧
    ∀ past window later, calls = past ++ window ++ later →
      tally (serveShop tables) (refreshes tables) (book past) window = 0 → ∀ slot,
        tally (serveShop tables) (buysFrom tables slot) (book past) window ≤ 1 := by
  intro book
  have within : ∀ past, WithinLimit (book past) := by
    intro past
    apply run_keeps WithinLimit (serveShop_withinLimit tables)
    exact ⟨show (0 : Int) ≤ 3 by decide, show (3 : Int) ≤ 3 by decide⟩
  refine ⟨?_, ?_, ?_, ?_, ?_⟩
  · intro past later _
    exact within past
  · rintro past call later rfl time told
    obtain ⟨started, sorted⟩ := List.pairwise_cons.mp ordered
    rw [List.map_append, List.map_cons] at started sorted
    have before : (book past).time ≤ call.now := by
      apply stored_time tables draws
      · exact started _ (by simp)
      · intro earlier member
        exact (List.pairwise_append.mp sorted).2.2 _ (List.mem_map_of_mem member) _ List.mem_cons_self
    exact toldTime_bounds before told
  · intro now book
    obtain ⟨k, counted⟩ := counted_calRefreshHeroShopTime now book
    exact ⟨counted.caught, calRefreshHeroShopTime_eq now book⟩
  · rintro past window later first last rfl head foot
    have inside := window_inside (List.pairwise_cons.mp ordered).2 head foot
    have spent := tally_invariant (serveShop_spent tables first.now last.now)
      (show Spent first.now last.now 0 (book past) from ⟨within past, .inl rfl⟩)
      (along_of_forall (fun call member _ => inside call member) _)
    rw [Nat.zero_add] at spent
    have both := inside first (List.mem_of_mem_head? head)
    exact spent.bound both.2
  · intro past window later _ none_ slot
    have sold := tally_invariant (serveShop_soldOnce tables slot) (show SoldOnce slot 0 (book past) from .inl rfl)
      (along_of_tally_eq_zero none_)
    rw [Nat.zero_add] at sold
    rcases sold with never | ⟨once, -⟩ <;> omega

theorem positive_of_name {id : Int} {key : String} (named : toString id = key) (nonzero : key ≠ "0")
    (unsigned : key.toList.head? ≠ some '-') : 0 < id := by
  subst named
  cases id with
  | ofNat n =>
    have : n ≠ 0 := by
      rintro rfl
      exact nonzero rfl
    simpa using Nat.pos_of_ne_zero this
  | negSucc n =>
    have signed : toString (Int.negSucc n) = "-" ++ toString (n + 1) := rfl
    rw [signed, String.toList_append] at unsigned
    exact absurd rfl unsigned

/-- A shop with one piece, which is made of swords. -/
def swordShop : ShopTables where
  Item := ⟨((∅ : Obj Bag.ItemRow).set "10101" ⟨2, some 99, 4, 0, some 100⟩).set "12001" ⟨2, some 99, 4, 0, some 100⟩, by decide⟩
  HeroShop := fun _ => [12001]
  Compose := (∅ : Obj ComposeRow).set "12001" ⟨.number 12001, [(.number 10101, 1)]⟩
  positive := by
    intro id known
    have named : toString id = "12001" := by simpa [Obj.has_set] using known
    exact positive_of_name named (by decide) (by decide)

def swordBag : BagList := ⟨100, (∅ : Obj Bag.ItemCell).set "10101" ⟨5⟩, ∅⟩

def shopVisit : List ShopCall :=
  let buy := ShopRequest.shopHero (.number 1) 1 (fun k => ⟨1436338999000 + k, 7, 1⟩) swordBag
  [⟨30000, .refreshHeroShop (.text "1") id⟩, ⟨30001, buy⟩, ⟨30002, buy⟩]

theorem heroShop_limited_visit :
    let book := run (serveShop swordShop) (createHeroBookInfo swordShop id 0)
    (book shopVisit).refreshNums ≤ 3 ∧
      tally (serveShop swordShop) (buysFrom swordShop "shop1") (book (shopVisit.take 1)) (shopVisit.drop 1) = 1 := by
  intro book
  obtain ⟨limit, -, -, -, sold⟩ := heroShop_limited swordShop id 0 shopVisit (by decide)
  refine ⟨(limit shopVisit [] (by simp)).2, ?_⟩
  apply Nat.le_antisymm
  · apply sold (shopVisit.take 1) (shopVisit.drop 1) []
    · rw [List.append_nil, List.take_append_drop]
    · decide +kernel
  · decide +kernel

end Tinygame.Hero
