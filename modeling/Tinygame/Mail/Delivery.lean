import Tinygame.Bag.Amounts
import Tinygame.Bag.Capacity
import Tinygame.Mail.Attach

/-!
# What a claimed mail delivers

One `getMailAttach` from its first command to its last. The loop over the attachment logs an item that does not fit and
goes on, gives an equip out as an item, and takes no notice of what it does not know: the mail is moved all the same.
-/

namespace Tinygame.Mail
open Redis (Session)

/-- The request after that many more commands, none of which fails. -/
def proceed (Item : Bag.ItemTable) (sessionId mailID : String) : Nat → GetMailAttach → Store → GetMailAttach × Store
  | 0, next, store => (next, store)
  | n + 1, next, store =>
    let (next, store) := next.step Item sessionId mailID false store
    proceed Item sessionId mailID n next store

/-- The whole request. -/
def getMailAttach (Item : Bag.ItemTable) (sessionId mailID : String) (store : Store) : GetMailAttach × Store :=
  proceed Item sessionId mailID 8 .getSession store

/-! ### Delivered -/

def equipCount (bagList : Bag.BagList) (name : String) : Nat :=
  bagList.equipList.count fun info => info.id.map Bag.Id.name = some name

/-- The limit cuts a currency off. -/
def credited (value : Int) : Option Int → Int
  | none => value
  | some amount => min (value + amount) commonValueMax

/-- What the entry of a name gives of items, and of equips. -/
def due (Item : Bag.ItemTable) (attach : Obj Int) (equip : Bool) (name : String) : Int :=
  match Item.rows.get? name with
  | none => 0
  | some row => if decide (row.itemTepy = Bag.mainTypeEquip) = equip then (attach.get? name).getD 0 else 0

/-- The player has got every entry of the attachment. -/
structure Delivered (Item : Bag.ItemTable) (attach : Obj Int) (bagList bagList' : Bag.BagList) (baseInfo baseInfo' : BaseInfo) : Prop where
  gold : baseInfo'.gold = credited baseInfo.gold (attach.get? "gold")
  diamond : baseInfo'.diamond = credited baseInfo.diamond (attach.get? "diamond")
  items : ∀ name, bagList'.held name = bagList.held name + due Item attach false name
  equips : ∀ name, (equipCount bagList' name : Int) = equipCount bagList name + due Item attach true name
  known : ∀ name amount, attach.get? name = some amount → amount = 0 ∨ name = "gold" ∨ name = "diamond" ∨ Item.rows.has name = true

/-- The mail is claimed with all that is attached to it, or nothing has happened. -/
def ClaimRight (Item : Bag.ItemTable) (sessionId mailID : String) (store : Store) : Prop :=
  match getMailAttach Item sessionId mailID store with
  | (.answered attach, store') => ∃ session bagList bagList' baseInfo baseInfo',
      store.sessions.get? sessionId = some session ∧
        store.strings.get? (bagKey session) = some (.bagList bagList) ∧ store'.strings.get? (bagKey session) = some (.bagList bagList') ∧
        store.strings.get? (playerKey session) = some (.baseInfo baseInfo) ∧
        store'.strings.get? (playerKey session) = some (.baseInfo baseInfo') ∧
        Delivered Item (attach.getD ∅) bagList bagList' baseInfo baseInfo' ∧
        mailID ∉ store'.members (mailPool session) ∧ mailID ∈ store'.members (mailGetList session)
  | (_, store') => store' = store

section
variable (Item : Bag.ItemTable)

/-- One round of the loop, as far as it is about the bag. -/
def takeItem (bagList : Bag.BagList) (entry : Σ _ : String, Int) : Bag.BagList :=
  if Item.rows.has entry.1 then (Bag.addItem Item (.text entry.1) entry.2 bagList).2 else bagList

/-- An entry that gets to the player: gold, diamonds, or an item that is no equip and fits. -/
def Fits (bagList : Bag.BagList) (entry : Σ _ : String, Int) : Prop :=
  entry.2 = 0 ∨ match Item.rows.get? entry.1 with
    | none => entry.1 = "gold" ∨ entry.1 = "diamond"
    | some row => row.itemTepy ≠ Bag.mainTypeEquip ∧ Bag.tryAddItem Item (.text entry.1) entry.2 bagList = true

/-- Each entry does when its turn comes. -/
def Deliverable : List (Σ _ : String, Int) → Bag.BagList → Prop
  | [], _ => True
  | entry :: rest, bagList => Fits Item bagList entry ∧ Deliverable rest (takeItem Item bagList entry)

end

def takeCurrency (baseInfo : BaseInfo) (entry : Σ _ : String, Int) : BaseInfo :=
  let baseInfo := if entry.1 = "gold" then { baseInfo with gold := addValue (baseInfo.gold + entry.2) } else baseInfo
  if entry.1 = "diamond" then { baseInfo with diamond := addValue (baseInfo.diamond + entry.2) } else baseInfo

/-! ### The loop -/

variable {Item : Bag.ItemTable} {entries : List (Σ _ : String, Int)} {bagList : Bag.BagList} {baseInfo : BaseInfo}

theorem takeAttach_eq (attach : Option (Obj Int)) (bagList : Bag.BagList) (baseInfo : BaseInfo) :
    takeAttach Item attach bagList baseInfo =
      ((attach.getD ∅).entries.foldl (takeItem Item) bagList, (attach.getD ∅).entries.foldl takeCurrency baseInfo) := by
  cases attach with
  | none => rfl
  | some attach =>
    show attach.entries.foldl _ (bagList, baseInfo) = (attach.entries.foldl _ _, attach.entries.foldl _ _)
    induction attach.entries generalizing bagList baseInfo with
    | nil => rfl
    | cons entry rest ih => exact ih ..

theorem addValue_eq (value : Int) : addValue value = min value commonValueMax := by
  unfold addValue
  split <;> omega

theorem takeCurrencies (distinct : entries.NodupKeys) (baseInfo : BaseInfo) :
    (entries.foldl takeCurrency baseInfo).gold = credited baseInfo.gold (entries.dlookup "gold") ∧
      (entries.foldl takeCurrency baseInfo).diamond = credited baseInfo.diamond (entries.dlookup "diamond") := by
  induction entries generalizing baseInfo with
  | nil => exact ⟨rfl, rfl⟩
  | cons entry rest ih =>
    obtain ⟨key, amount⟩ := entry
    obtain ⟨fresh, later⟩ := List.nodupKeys_cons.mp distinct
    obtain ⟨gold, diamond⟩ := ih later (takeCurrency baseInfo ⟨key, amount⟩)
    rw [List.foldl_cons, gold, diamond]
    unfold takeCurrency
    dsimp only
    by_cases isGold : key = "gold"
    · subst isGold
      rw [if_pos rfl, if_neg (by decide), List.dlookup_eq_none.mpr fresh, List.dlookup_cons_eq,
        List.dlookup_cons_ne _ _ (by show "diamond" ≠ "gold"; decide)]
      exact ⟨addValue_eq _, rfl⟩
    · rw [if_neg isGold, List.dlookup_cons_ne _ _ (Ne.symm isGold)]
      by_cases isDiamond : key = "diamond"
      · subst isDiamond
        rw [if_pos rfl, List.dlookup_eq_none.mpr fresh, List.dlookup_cons_eq]
        exact ⟨rfl, addValue_eq _⟩
      · rw [if_neg isDiamond, List.dlookup_cons_ne _ _ (Ne.symm isDiamond)]
        exact ⟨rfl, rfl⟩

theorem takeItem_equipList (bagList : Bag.BagList) (entry : Σ _ : String, Int) :
    (takeItem Item bagList entry).equipList = bagList.equipList := by
  unfold takeItem
  split
  · exact Bag.addItem_equipList ..
  · rfl

/-- Nothing can be added under a name that is not in the table. -/
theorem tryAddItem_known {name : String} {num : Int} (fits : Bag.tryAddItem Item (.text name) num bagList = true) :
    Item.rows.has name = true := by
  by_contra unknown
  have none_ : Item.rows.get? (Bag.Id.text name).name = none := Obj.has_eq_false.mp (Bool.eq_false_iff.mpr unknown)
  unfold Bag.tryAddItem at fits
  rw [none_] at fits
  split at fits <;> cases fits

theorem takeItem_held (bagList : Bag.BagList) (entry : Σ _ : String, Int) (name : String) :
    (takeItem Item bagList entry).held name = bagList.held name +
      if name = entry.1 ∧ Bag.tryAddItem Item (.text entry.1) entry.2 bagList = true then entry.2 else 0 := by
  unfold takeItem
  split
  · refine (Bag.addItem_held ..).trans ?_
    by_cases fits : Bag.tryAddItem Item (.text entry.1) entry.2 bagList = true
    · simp only [fits, and_true, if_true]
      rfl
    · rw [if_neg fits, if_neg fun both => fits both.2]
  · rename_i unknown
    rw [if_neg fun both => unknown (tryAddItem_known both.2), Int.add_zero]

theorem takeItems_held {name : String} (bagList : Bag.BagList) (untouched : name ∉ entries.keys) :
    (entries.foldl (takeItem Item) bagList).held name = bagList.held name := by
  induction entries generalizing bagList with
  | nil => rfl
  | cons entry rest ih =>
    obtain ⟨other, later⟩ := not_or.mp (mt List.mem_cons.mpr untouched)
    rw [List.foldl_cons, ih _ later, takeItem_held, if_neg fun both => other both.1, Int.add_zero]

theorem takeItems_equipList (entries : List (Σ _ : String, Int)) (bagList : Bag.BagList) :
    (entries.foldl (takeItem Item) bagList).equipList = bagList.equipList := by
  induction entries generalizing bagList with
  | nil => rfl
  | cons entry rest ih => rw [List.foldl_cons, ih, takeItem_equipList]

/-- The entry has come into the bag as it should. -/
def Done (Item : Bag.ItemTable) (before after : Bag.BagList) (entry : Σ _ : String, Int) : Prop :=
  entry.2 = 0 ∨ match Item.rows.get? entry.1 with
    | none => entry.1 = "gold" ∨ entry.1 = "diamond"
    | some row => row.itemTepy ≠ Bag.mainTypeEquip ∧ after.held entry.1 = before.held entry.1 + entry.2

theorem done_iff {after : Bag.BagList} {entry : Σ _ : String, Int}
    (kept : after.held entry.1 = (takeItem Item bagList entry).held entry.1) :
    Done Item bagList after entry ↔ Fits Item bagList entry := by
  unfold Done Fits
  by_cases zero : entry.2 = 0
  · exact iff_of_true (.inl zero) (.inl zero)
  · refine or_congr Iff.rfl ?_
    cases Item.rows.get? entry.1 with
    | none => exact Iff.rfl
    | some row =>
      refine and_congr_right fun _ => ?_
      rw [kept, takeItem_held]
      simp only [true_and]
      split
      · rename_i fits
        exact iff_of_true rfl fits
      · rename_i refused
        exact iff_of_false (by omega) refused

theorem done_congr {before before' after : Bag.BagList} {entry : Σ _ : String, Int} (same : before'.held entry.1 = before.held entry.1) :
    Done Item before' after entry ↔ Done Item before after entry := by
  unfold Done
  rw [same]

/-- Everything has come into the bag just when each entry did when its turn came. -/
theorem takeItems_done (distinct : entries.NodupKeys) (bagList : Bag.BagList) :
    (∀ entry ∈ entries, Done Item bagList (entries.foldl (takeItem Item) bagList) entry) ↔ Deliverable Item entries bagList := by
  induction entries generalizing bagList with
  | nil => exact iff_of_true (fun entry there => (List.not_mem_nil there).elim) trivial
  | cons entry rest ih =>
    obtain ⟨fresh, later⟩ := List.nodupKeys_cons.mp distinct
    rw [List.forall_mem_cons, List.foldl_cons]
    refine and_congr (done_iff (takeItems_held _ fresh)) ?_
    rw [← ih later]
    refine forall₂_congr fun other there => (done_congr ?_).symm
    have ne : other.1 ≠ entry.1 := fun same => fresh (same ▸ List.mem_keys_of_mem there)
    rw [takeItem_held, if_neg fun both => ne both.1, Int.add_zero]

/-- What an entry can do to the stack under its name. -/
theorem takeItems_held_cases (distinct : entries.NodupKeys) (bagList : Bag.BagList) {entry : Σ _ : String, Int} (there : entry ∈ entries) :
    (entries.foldl (takeItem Item) bagList).held entry.1 = bagList.held entry.1 ∨
      Item.rows.has entry.1 = true ∧ (entries.foldl (takeItem Item) bagList).held entry.1 = bagList.held entry.1 + entry.2 := by
  induction entries generalizing bagList with
  | nil => cases there
  | cons first rest ih =>
    obtain ⟨fresh, later⟩ := List.nodupKeys_cons.mp distinct
    rw [List.foldl_cons]
    rcases List.mem_cons.mp there with rfl | there
    · rw [takeItems_held _ fresh, takeItem_held]
      split
      · rename_i fits
        exact .inr ⟨tryAddItem_known fits.2, rfl⟩
      · exact .inl (Int.add_zero _)
    · have ne : entry.1 ≠ first.1 := fun same => fresh (same ▸ List.mem_keys_of_mem there)
      have same : (takeItem Item bagList first).held entry.1 = bagList.held entry.1 := by
        rw [takeItem_held, if_neg fun both => ne both.1, Int.add_zero]
      rw [← same]
      exact ih later _ there

/-! ### The request -/

/-- The loop delivers what is attached just when every entry can be delivered at its turn. -/
theorem delivered_iff (attach : Obj Int) (bagList : Bag.BagList) (baseInfo : BaseInfo) :
    Delivered Item attach bagList (attach.entries.foldl (takeItem Item) bagList) baseInfo (attach.entries.foldl takeCurrency baseInfo) ↔
      Deliverable Item attach.entries bagList := by
  rw [← takeItems_done attach.nodupKeys]
  obtain ⟨gold, diamond⟩ := takeCurrencies attach.nodupKeys baseInfo
  have equips : ∀ name, equipCount (attach.entries.foldl (takeItem Item) bagList) name = equipCount bagList name := by
    intro name
    unfold equipCount
    rw [takeItems_equipList]
  constructor
  · intro delivered entry there
    have found : attach.get? entry.1 = some entry.2 := AList.mem_lookup_iff.mpr there
    have items := delivered.items entry.1
    have given := delivered.equips entry.1
    have known := delivered.known entry.1 entry.2 found
    unfold due at items given
    unfold Done
    rw [found] at items given
    rw [equips] at given
    by_cases zero : entry.2 = 0
    · exact .inl zero
    · refine .inr ?_
      cases row : Item.rows.get? entry.1 with
      | none =>
        rw [Obj.has_eq_false.mpr row] at known
        simpa [zero] using known
      | some row' =>
        rw [row] at items given
        by_cases equip : row'.itemTepy = Bag.mainTypeEquip
        · simp [equip] at given
          exact absurd given zero
        · simp [equip] at items
          exact ⟨equip, items⟩
  · intro done
    have listed : ∀ name amount, attach.get? name = some amount → Done Item bagList
      (attach.entries.foldl (takeItem Item) bagList) ⟨name, amount⟩ :=
      fun name amount found => done ⟨name, amount⟩ (AList.mem_lookup_iff.mp found)
    refine ⟨gold, diamond, fun name => ?_, fun name => ?_, fun name amount found => ?_⟩
    · unfold due
      cases found : attach.get? name with
      | none =>
        have absent : name ∉ attach.entries.keys := List.dlookup_eq_none.mp found
        rw [takeItems_held _ absent]
        cases Item.rows.get? name with
        | none => exact (Int.add_zero _).symm
        | some row => dsimp only; split <;> exact (Int.add_zero _).symm
      | some amount =>
        have there : (⟨name, amount⟩ : Σ _ : String, Int) ∈ attach.entries := AList.mem_lookup_iff.mp found
        rcases listed name amount found with zero | right
        · have zero : amount = 0 := zero
          have same : (attach.entries.foldl (takeItem Item) bagList).held name = bagList.held name := by
            rcases takeItems_held_cases attach.nodupKeys bagList there with same | ⟨-, more⟩
            · exact same
            · rw [more, zero, Int.add_zero]
          rw [same, zero]
          cases Item.rows.get? name with
          | none => exact (Int.add_zero _).symm
          | some row => dsimp only; split <;> exact (Int.add_zero _).symm
        · cases row : Item.rows.get? name with
          | none =>
            rcases takeItems_held_cases attach.nodupKeys bagList there with same | ⟨known, -⟩
            · exact same.trans (Int.add_zero _).symm
            · have known : Item.rows.has name = true := known
              rw [Obj.has_eq_false.mpr row] at known
              cases known
          | some row' =>
            rw [row] at right
            dsimp only
            rw [if_pos (decide_eq_false right.1)]
            exact right.2
    · unfold due
      rw [equips]
      cases row : Item.rows.get? name with
      | none => exact (Int.add_zero _).symm
      | some row' =>
        dsimp only
        split
        · rename_i equip
          cases found : attach.get? name with
          | none => exact (Int.add_zero _).symm
          | some amount =>
            rcases listed name amount found with zero | wrong
            · show _ = _ + amount
              rw [show amount = 0 from zero, Int.add_zero]
            · rw [row] at wrong
              exact absurd (of_decide_eq_true equip) wrong.1
        · exact (Int.add_zero _).symm
    · rcases listed name amount found with zero | known
      · exact .inl zero
      · cases row : Item.rows.get? name with
        | none =>
          rw [row] at known
          exact .inr (known.elim .inl fun diamond => .inr (.inl diamond))
        | some row' => exact .inr (.inr (.inr (Obj.has_iff.mpr ⟨row', row⟩)))

variable {sessionId mailID : String} {session : Session} {store : Store} {mailHead : MailHead}

theorem playerKey_ne_bagKey (session other : Session) : playerKey session ≠ bagKey other :=
  Redis.key_ne '4' '8' (by decide) (by decide) (by decide)

/-- What is read before anything is written. -/
structure Readable (sessionId mailID : String) (store : Store) (session : Session) (mailHead : MailHead) (bagList : Bag.BagList)
    (baseInfo : BaseInfo) : Prop where
  known : store.sessions.get? sessionId = some session
  pool : mailID ∈ store.members (mailPool session)
  head : store.strings.get? (mailHeadKey session.area mailID) = some (.mailHead mailHead)
  bag : store.strings.get? (bagKey session) = some (.bagList bagList)
  player : store.strings.get? (playerKey session) = some (.baseInfo baseInfo)

/-- The store when everything has been saved and moved. -/
def Store.claimed (store : Store) (session : Session) (mailID : String) (bagList : Bag.BagList) (baseInfo : BaseInfo) : Store :=
  ((store.set (playerKey session) (.baseInfo baseInfo)).set (bagKey session) (.bagList bagList)).smove (mailPool session)
    (mailGetList session) mailID

section
variable (session) (bagList) (baseInfo)

theorem claimed_strings : (store.claimed session mailID bagList baseInfo).strings =
    (store.strings.set (playerKey session) (.baseInfo baseInfo)).set (bagKey session) (.bagList bagList) := by
  unfold Store.claimed Store.smove
  split <;> rfl

theorem claimed_bag : (store.claimed session mailID bagList baseInfo).strings.get? (bagKey session) = some (.bagList bagList) := by
  rw [claimed_strings, Obj.get?_set_self]

theorem claimed_player : (store.claimed session mailID bagList baseInfo).strings.get? (playerKey session) = some (.baseInfo baseInfo) := by
  rw [claimed_strings, Obj.get?_set_of_ne _ _ (playerKey_ne_bagKey session session), Obj.get?_set_self]

theorem claimed_moved (pool : mailID ∈ store.members (mailPool session)) :
    mailID ∉ (store.claimed session mailID bagList baseInfo).members (mailPool session) ∧
      mailID ∈ (store.claimed session mailID bagList baseInfo).members (mailGetList session) := by
  unfold Store.claimed
  rw [Store.mem_smove, Store.mem_smove, Store.members_store, Store.members_store, if_pos pool, if_pos pool]
  refine ⟨?_, .inl ⟨rfl, rfl⟩⟩
  rintro (⟨same, -⟩ | ⟨-, kept⟩)
  · exact mailPool_ne_mailGetList session session same
  · exact kept ⟨rfl, rfl⟩

end

theorem getMailAttach_readable (readable : Readable sessionId mailID store session mailHead bagList baseInfo) :
    getMailAttach Item sessionId mailID store = (.answered mailHead.attach,
      store.claimed session mailID (takeAttach Item mailHead.attach bagList baseInfo).1
        (takeAttach Item mailHead.attach bagList baseInfo).2) := by
  obtain ⟨known, pool, head, bag, player⟩ := readable
  simp [getMailAttach, proceed, GetMailAttach.step, known, pool, head, bag, player, Store.claimed]

theorem getMailAttach_unreadable
    (unreadable : ∀ session mailHead bagList baseInfo, ¬Readable sessionId mailID store session mailHead bagList baseInfo) :
    getMailAttach Item sessionId mailID store = (.failed, store) := by
  cases known : store.sessions.get? sessionId with
  | none => simp [getMailAttach, proceed, GetMailAttach.step, known]
  | some session =>
    by_cases pool : mailID ∈ store.members (mailPool session)
    · cases head : store.strings.get? (mailHeadKey session.area mailID) with
      | none => simp [getMailAttach, proceed, GetMailAttach.step, known, pool, head]
      | some value =>
        cases value with
        | mailText | baseInfo | bagList => simp [getMailAttach, proceed, GetMailAttach.step, known, pool, head]
        | mailHead mailHead =>
          cases bag : store.strings.get? (bagKey session) with
          | none => simp [getMailAttach, proceed, GetMailAttach.step, known, pool, head, bag]
          | some value =>
            cases value with
            | mailText | baseInfo | mailHead => simp [getMailAttach, proceed, GetMailAttach.step, known, pool, head, bag]
            | bagList bagList =>
              cases player : store.strings.get? (playerKey session) with
              | none => simp [getMailAttach, proceed, GetMailAttach.step, known, pool, head, bag, player]
              | some value =>
                cases value with
                | mailText | bagList | mailHead => simp [getMailAttach, proceed, GetMailAttach.step, known, pool, head, bag, player]
                | baseInfo baseInfo => exact absurd ⟨known, pool, head, bag, player⟩ (unreadable session mailHead bagList baseInfo)
    · simp [getMailAttach, proceed, GetMailAttach.step, known, pool]

theorem Readable.only {session' : Session} {mailHead' : MailHead} {bagList' : Bag.BagList} {baseInfo' : BaseInfo}
    (readable : Readable sessionId mailID store session mailHead bagList baseInfo)
    (other : Readable sessionId mailID store session' mailHead' bagList' baseInfo') :
    session' = session ∧ mailHead' = mailHead ∧ bagList' = bagList := by
  obtain rfl := Option.some.inj (other.known.symm.trans readable.known)
  cases other.head.symm.trans readable.head
  cases other.bag.symm.trans readable.bag
  exact ⟨rfl, rfl, rfl⟩

theorem claimRight_readable (readable : Readable sessionId mailID store session mailHead bagList baseInfo) :
    ClaimRight Item sessionId mailID store ↔ Deliverable Item (mailHead.attach.getD ∅).entries bagList := by
  unfold ClaimRight
  rw [getMailAttach_readable readable, takeAttach_eq]
  have delivered := @delivered_iff Item (mailHead.attach.getD ∅) bagList baseInfo
  constructor
  · rintro ⟨session', _, _, _, _, known, bag, bag', player, player', all, -⟩
    obtain rfl := Option.some.inj (known.symm.trans readable.known)
    cases bag.symm.trans readable.bag
    cases player.symm.trans readable.player
    cases bag'.symm.trans (claimed_bag ..)
    cases player'.symm.trans (claimed_player ..)
    exact delivered.mp all
  · intro deliverable
    exact ⟨session, bagList, _, baseInfo, _, readable.known, readable.bag, claimed_bag .., readable.player, claimed_player ..,
      delivered.mpr deliverable, claimed_moved _ _ _ readable.pool⟩

/-- **A claimed mail** delivers everything just when each of its entries can be delivered when its turn comes. -/
theorem claimRight_iff (Item : Bag.ItemTable) (sessionId mailID : String) (store : Store) :
    ClaimRight Item sessionId mailID store ↔ ∀ session mailHead bagList baseInfo,
      Readable sessionId mailID store session mailHead bagList baseInfo →
        Deliverable Item (mailHead.attach.getD ∅).entries bagList := by
  by_cases some_ : ∃ session mailHead bagList baseInfo, Readable sessionId mailID store session mailHead bagList baseInfo
  · obtain ⟨session, mailHead, bagList, baseInfo, readable⟩ := some_
    rw [claimRight_readable readable]
    constructor
    · intro deliverable _ _ _ _ readable'
      obtain ⟨rfl, rfl, rfl⟩ := readable.only readable'
      exact deliverable
    · exact fun deliverable => deliverable session mailHead bagList baseInfo readable
  · have none_ : ∀ session mailHead bagList baseInfo, ¬Readable sessionId mailID store session mailHead bagList baseInfo :=
      fun session mailHead bagList baseInfo readable => some_ ⟨session, mailHead, bagList, baseInfo, readable⟩
    unfold ClaimRight
    rw [getMailAttach_unreadable none_]
    exact iff_of_true rfl fun session mailHead bagList baseInfo readable => absurd readable (none_ session mailHead bagList baseInfo)

/-! ### A full bag -/

/-- A bag of one cell, with a pack in it. -/
def onePack : Bag.BagList := ⟨1, (∅ : Obj Bag.ItemCell).set "12001" ⟨1⟩, ∅⟩

def fivePacks : MailHead := ⟨7, "operator", "packs", some ((∅ : Obj Int).set "12001" 5)⟩

def packPlayer : Session := ⟨"1", "1001"⟩

/-- The player has a mail with five packs, and no place for them. -/
def packStore : Store where
  sessions := (∅ : Obj Session).set "s" packPlayer
  mailID := 7
  strings := (((∅ : Obj Value).set (mailHeadKey "1" "7") (.mailHead fivePacks)).set (bagKey packPlayer) (.bagList onePack)).set
    (playerKey packPlayer) (.baseInfo ⟨0, 0, ∅⟩)
  sets := (∅ : Obj (List String)).set (mailPool packPlayer) ["7"]

theorem packStore_readable : Readable "s" "7" packStore packPlayer fivePacks onePack ⟨0, 0, ∅⟩ where
  known := rfl
  pool := by decide
  head := rfl
  bag := rfl
  player := rfl

/-- The mail with the packs is claimed, and the packs are lost. -/
theorem packs_lost : ¬ClaimRight Bag.swordAndPack "s" "7" packStore := by
  rw [claimRight_readable packStore_readable]
  rintro ⟨zero | ⟨-, fits⟩, -⟩
  · exact absurd zero (by decide)
  · exact absurd fits (by decide)

end Tinygame.Mail
