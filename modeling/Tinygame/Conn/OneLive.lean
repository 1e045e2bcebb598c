import Tinygame.Conn.Login

/-!
# One live session for a player

Every open session that is bound to a player is named by the online info, unless a login of the player has read
that info and is about to kick it, or a kick is under way to it. Two logins that read the same info each believe
that the other one's session does not exist.
-/

namespace Tinygame.Conn

variable {world : World} {player : UserArea} {sessionId : Nat} {info : OnlineInfo} {login : Login} {i j : Nat} {ok : Bool}

/-! ### Where sessions are -/

/-- Redis, a kick or a login speaks of the session. -/
def World.Knows (world : World) (info : OnlineInfo) : Prop :=
  (∃ player, world.onlineInfo player = some info) ∨ (∃ kick ∈ world.kicks, kick.info = info) ∨
    ∃ login ∈ world.logins, info = ⟨login.sessionId, login.connId⟩ ∨ login.phase = .told (some info)

/-- The session was made before, and if it is open it is on that server. -/
def World.Located (world : World) (info : OnlineInfo) : Prop :=
  info.sessionId ≤ world.nextSId ∧ ∀ connId, world.sockets info.sessionId = some connId → connId = info.connId

/-- What is to become of a session that is bound to the player: a kick is under way to it, or a login is about to
kick it, or it is the one redis names. -/
def World.Covers (world : World) (player : UserArea) (sessionId : Nat) : Prop :=
  (∃ kick ∈ world.kicks, kick.player = player ∧ kick.info.sessionId = sessionId) ∨
    (∃ login ∈ world.logins, login.player = player ∧ ∃ info, login.phase = .told (some info) ∧ info.sessionId = sessionId) ∨
    (∀ login ∈ world.logins, login.player = player → login.Busy → login.phase = .recording) ∧
      (world.onlineInfo player).map OnlineInfo.sessionId = some sessionId

structure Sound (world : World) : Prop where
  made : ∀ sessionId connId, world.sockets sessionId = some connId → sessionId ≤ world.nextSId
  used : ∀ sessionId record, world.sessions sessionId = some record → sessionId ≤ world.nextSId
  located : ∀ info, world.Knows info → world.Located info
  single : ∀ (i j : Nat) first second, world.logins[i]? = some first → world.logins[j]? = some second →
    first.player = second.player → first.Busy → second.Busy → i = j
  recorded : ∀ login ∈ world.logins, login.phase = .recording →
    world.onlineInfo login.player = some ⟨login.sessionId, login.connId⟩
  covered : ∀ player sessionId, world.Bound sessionId player → world.Covers player sessionId

theorem sound_init : Sound World.init where
  made _ _ there := by cases there
  used _ _ found := by cases found
  located info knows := by
    rcases knows with ⟨_, found⟩ | ⟨kick, there, -⟩ | ⟨login, there, -⟩
    · cases found
    · exact absurd there List.not_mem_nil
    · exact absurd there List.not_mem_nil
  single i _ _ _ there := by cases there
  recorded login there := absurd there List.not_mem_nil
  covered _ _ bound := by cases bound.1

theorem oneLive_of_sound (sound : Sound world) (player : UserArea) : OneLive world player := by
  intro settled
  have named : ∀ sessionId, world.Bound sessionId player → (world.onlineInfo player).map OnlineInfo.sessionId = some sessionId := by
    intro sessionId bound
    rcases sound.covered player sessionId bound with ⟨kick, there, own, -⟩ | ⟨login, there, own, info, phase, -⟩ | ⟨-, named⟩
    · exact absurd own (settled.2 kick there)
    · cases (settled.1 login there own).symm.trans phase
    · exact named
  refine ⟨fun sessionId other bound bound' => ?_, named⟩
  exact Option.some.inj ((named sessionId bound).symm.trans (named other bound'))

/-! ### Closing -/

theorem closeClient_sockets (world : World) (info : OnlineInfo) (sessionId : Nat) (connId : String)
    (there : (world.closeClient info).sockets sessionId = some connId) : world.sockets sessionId = some connId := by
  unfold World.closeClient at there
  split at there
  · by_cases same : sessionId = info.sessionId
    · subst same
      simp at there
    · simpa [Function.update_of_ne same] using there
  · exact there

theorem closeClient_closed (located : world.Located info) : (world.closeClient info).sockets info.sessionId = none := by
  unfold World.closeClient
  split
  · exact Function.update_self ..
  · rename_i elsewhere
    cases there : world.sockets info.sessionId with
    | none => rfl
    | some connId => exact absurd (located.2 connId there ▸ there) elsewhere

theorem closeClient_rest (world : World) (info : OnlineInfo) : (world.closeClient info).nextSId = world.nextSId ∧
    (world.closeClient info).onlineInfo = world.onlineInfo ∧ (world.closeClient info).sessions = world.sessions ∧
    (world.closeClient info).logins = world.logins ∧ (world.closeClient info).kicks = world.kicks := by
  unfold World.closeClient
  split <;> exact ⟨rfl, rfl, rfl, rfl, rfl⟩

/-! ### A login goes on -/

section
variable {world' : World} {phase : Phase}

theorem mem_set_of_mem {other : Login} (there : world.logins[i]? = some login) (member : other ∈ world.logins) (next : Login) :
    other = login ∨ other ∈ world.logins.set i next := by
  obtain ⟨k, found⟩ := List.mem_iff_getElem?.mp member
  by_cases same : k = i
  · subst same
    exact .inl (Option.some.inj (found.symm.trans there))
  · exact .inr (List.mem_of_getElem? ((List.getElem?_set_ne (Ne.symm same)).trans found))

/-- Sessions close, and nothing is spoken of that was not before. -/
theorem located_of_knows (sound : Sound world) (next : world'.nextSId = world.nextSId)
    (sockets : ∀ sessionId connId, world'.sockets sessionId = some connId → world.sockets sessionId = some connId)
    (knows : ∀ info, world'.Knows info → world.Knows info) (info : OnlineInfo) (known : world'.Knows info) :
    world'.Located info := by
  obtain ⟨made, place⟩ := sound.located info (knows info known)
  exact ⟨next ▸ made, fun connId there => place connId (sockets _ connId there)⟩

theorem bound_of_shrink (sockets : ∀ sessionId connId, world'.sockets sessionId = some connId → world.sockets sessionId = some connId)
    (sessions : world'.sessions sessionId = world.sessions sessionId) (bound : world'.Bound sessionId player) :
    world.Bound sessionId player := by
  refine ⟨?_, sessions ▸ bound.2⟩
  obtain ⟨connId, there⟩ := Option.isSome_iff_exists.mp bound.1
  rw [sockets sessionId connId there]
  rfl

/-- The login keeps the only busy one of its player. -/
theorem single_set (sound : Sound world) (there : world.logins[i]? = some login) (phase : Phase)
    (alone : phase ≠ .asked ∧ phase ≠ .ended → login.Busy ∨ ∀ other ∈ world.logins, other.player = login.player → ¬ other.Busy)
    (k l : Nat) (first second : Login) (found : (world.logins.set i { login with phase })[k]? = some first)
    (found' : (world.logins.set i { login with phase })[l]? = some second) (same : first.player = second.player)
    (busy : first.Busy) (busy' : second.Busy) : k = l := by
  have inside := (List.getElem?_eq_some_iff.mp there).1
  -- Of two busy ones at most one is the login itself.
  have apart : ∀ (l : Nat) (second : Login), i ≠ l → world.logins[l]? = some second → login.player = second.player → second.Busy →
      phase ≠ .asked ∧ phase ≠ .ended → False := by
    intro l second different found' same busy' busy
    rcases alone busy with before | nobody
    · exact different (sound.single i l login second there found' same before busy')
    · exact nobody second (List.mem_of_getElem? found') same.symm busy'
  by_cases isI : i = k
  · subst isI
    rw [List.getElem?_set_self inside] at found
    obtain rfl := Option.some.inj found
    by_cases isI' : i = l
    · exact isI'
    · rw [List.getElem?_set_ne isI'] at found'
      exact (apart l second isI' found' same busy' busy).elim
  · rw [List.getElem?_set_ne isI] at found
    by_cases isI' : i = l
    · subst isI'
      rw [List.getElem?_set_self inside] at found'
      obtain rfl := Option.some.inj found'
      exact (apart k first isI found same.symm busy busy').elim
    · rw [List.getElem?_set_ne isI'] at found'
      exact sound.single k l first second found found' same busy busy'

/-- The sessions of other players stay covered. -/
theorem covers_other (there : world.logins[i]? = some login) (logins : world'.logins = world.logins.set i { login with phase })
    (kicks : ∀ kick ∈ world.kicks, kick ∈ world'.kicks) (different : player ≠ login.player)
    (online : world'.onlineInfo player = world.onlineInfo player) (covers : world.Covers player sessionId) :
    world'.Covers player sessionId := by
  rcases covers with ⟨kick, member, own⟩ | ⟨other, member, own, told⟩ | ⟨calm, named⟩
  · exact .inl ⟨kick, kicks kick member, own⟩
  · rcases mem_set_of_mem there member { login with phase } with same | member
    · rw [same] at own
      exact absurd own.symm different
    · exact .inr (.inl ⟨other, logins ▸ member, own, told⟩)
  · refine .inr (.inr ⟨fun other member own => ?_, online ▸ named⟩)
    rw [logins] at member
    rcases List.mem_or_eq_of_mem_set member with member | same
    · exact calm other member own
    · rw [same] at own
      exact absurd own.symm different

/-- While a login is busy and not recording, a session of its player is covered by a kick or by what it was told. -/
theorem covers_own (sound : Sound world) (there : world.logins[i]? = some login) (busy : login.Busy) (early : login.phase ≠ .recording)
    (covers : world.Covers login.player sessionId) :
    (∃ kick ∈ world.kicks, kick.player = login.player ∧ kick.info.sessionId = sessionId) ∨
      ∃ info, login.phase = .told (some info) ∧ info.sessionId = sessionId := by
  rcases covers with kicked | ⟨other, member, own, info, told, same⟩ | ⟨calm, -⟩
  · exact .inl kicked
  · obtain ⟨k, found⟩ := List.mem_iff_getElem?.mp member
    have isBusy : other.Busy := by
      constructor <;> rw [told] <;> exact fun no => by cases no
    obtain rfl := sound.single k i other login found there own isBusy busy
    obtain rfl := Option.some.inj (found.symm.trans there)
    exact .inr ⟨info, told, same⟩
  · exact absurd (calm login (List.mem_of_getElem? there) rfl busy) early

theorem recorded_set (sound : Sound world) {login : Login} (late : phase ≠ .recording) :
    ∀ other ∈ world.logins.set i { login with phase }, other.phase = .recording →
      world.onlineInfo other.player = some ⟨other.sessionId, other.connId⟩ := by
  intro other member recording
  rcases List.mem_or_eq_of_mem_set member with member | same
  · exact sound.recorded other member recording
  · rw [same] at recording
    exact absurd recording late

theorem knows_set (there : world.logins[i]? = some login) (phase : Phase)
    (told : ∀ info, phase = .told (some info) → world.Knows info) :
    ∀ info, (∃ other ∈ world.logins.set i { login with phase := phase },
        info = ⟨other.sessionId, other.connId⟩ ∨ other.phase = .told (some info)) →
      world.Knows info := by
  rintro info ⟨other, member, said⟩
  rcases List.mem_or_eq_of_mem_set member with member | same
  · exact .inr (.inr ⟨other, member, said⟩)
  · rw [same] at said
    rcases said with own | phase
    · exact .inr (.inr ⟨login, List.mem_of_getElem? there, .inl own⟩)
    · exact told info phase

/-! ### The steps of a login -/

/-- The world after a login has changed its phase and nothing else. -/
def World.turn (world : World) (i : Nat) (login : Login) (phase : Phase) : World :=
  { world with logins := world.logins.set i { login with phase } }

/-- A login that goes on by itself has to answer for the sessions of its player. -/
theorem sound_turn (sound : Sound world) (there : world.logins[i]? = some login)
    (told : ∀ info, phase = .told (some info) → world.Knows info)
    (alone : phase ≠ .asked ∧ phase ≠ .ended → login.Busy ∨ ∀ other ∈ world.logins, other.player = login.player → ¬ other.Busy)
    (late : phase ≠ .recording)
    (covers : ∀ sessionId, world.Covers login.player sessionId → (world.turn i login phase).Covers login.player sessionId) :
    Sound (world.turn i login phase) where
  made := sound.made
  used := sound.used
  located := by
    refine located_of_knows sound rfl (fun _ _ open_ => open_) fun info knows => ?_
    rcases knows with known | known | said
    · exact .inl known
    · exact .inr (.inl known)
    · exact knows_set there phase told info said
  single := single_set sound there phase alone
  recorded := recorded_set sound late
  covered player sessionId bound := by
    have before := sound.covered player sessionId bound
    by_cases same : player = login.player
    · subst same
      exact covers sessionId before
    · exact covers_other there rfl (fun _ member => member) same rfl before

/-- A login that was told of nobody leaves it to the kicks. -/
theorem covers_untold (sound : Sound world) (there : world.logins[i]? = some login) (busy : login.Busy)
    (early : login.phase ≠ .recording) (untold : ∀ info, login.phase ≠ .told (some info)) (sessionId : Nat)
    (covers : world.Covers login.player sessionId) : (world.turn i login phase).Covers login.player sessionId := by
  rcases covers_own sound there busy early covers with kicked | ⟨info, told, -⟩
  · exact .inl kicked
  · exact absurd told (untold info)

theorem sound_read (sound : Sound world) (there : world.logins[i]? = some login)
    (alone : ∀ other ∈ world.logins, other.player = login.player → ¬ other.Busy)
    (quiet : ∀ kick ∈ world.kicks, kick.player ≠ login.player) :
    Sound (world.turn i login (.told (world.onlineInfo login.player))) := by
  refine sound_turn sound there (fun info told => .inl ⟨login.player, Phase.told.inj told⟩) (fun _ => .inr alone) (by simp) ?_
  intro sessionId covers
  rcases covers with ⟨kick, member, own, -⟩ | ⟨other, member, own, info, told, -⟩ | ⟨-, named⟩
  · exact absurd own (quiet kick member)
  · exact absurd ⟨by rw [told]; simp, by rw [told]; simp⟩ (alone other member own)
  · obtain ⟨info, online, same⟩ := Option.map_eq_some_iff.mp named
    have inside := (List.getElem?_eq_some_iff.mp there).1
    exact .inr (.inl ⟨_, List.mem_of_getElem? (List.getElem?_set_self inside), rfl, info, congrArg _ online, same⟩)

theorem sound_told (sound : Sound world) (there : world.logins[i]? = some login) (phase : login.phase = .told none) :
    Sound (world.turn i login .loading) := by
  have busy : login.Busy := ⟨by rw [phase]; simp, by rw [phase]; simp⟩
  refine sound_turn sound there (fun info told => by cases told) (fun _ => .inl busy) (by simp) ?_
  exact covers_untold sound there busy (by rw [phase]; simp) fun info => by rw [phase]; simp

theorem sound_kick (sound : Sound world) (there : world.logins[i]? = some login) (phase : login.phase = .told (some info)) :
    Sound ((world.kickClient login info).turn i login .loading) := by
  have member := List.mem_of_getElem? there
  have busy : login.Busy := ⟨by rw [phase]; simp, by rw [phase]; simp⟩
  have early : login.phase ≠ .recording := by rw [phase]; simp
  have located : world.Located info := sound.located info (.inr (.inr ⟨login, member, .inr phase⟩))
  unfold World.kickClient
  split
  · -- The session is closed at once.
    obtain ⟨next, online, sessions, logins, kicks⟩ := closeClient_rest world info
    have turned : (world.closeClient info).turn i login .loading =
        { world.closeClient info with logins := world.logins.set i { login with phase := .loading } } := by
      rw [World.turn, logins]
    rw [turned]
    refine ⟨?_, ?_, ?_, single_set sound there .loading fun _ => .inl busy, ?_, ?_⟩
    · intro sessionId connId there
      rw [show (world.closeClient info).nextSId = world.nextSId from next]
      exact sound.made sessionId connId (closeClient_sockets world info sessionId connId there)
    · intro sessionId record found
      rw [show (world.closeClient info).nextSId = world.nextSId from next]
      exact sound.used sessionId record (sessions ▸ found)
    · refine located_of_knows sound next (closeClient_sockets world info) fun info' knows => ?_
      rcases knows with ⟨player, known⟩ | ⟨kick, known, same⟩ | said
      · exact .inl ⟨player, online ▸ known⟩
      · exact .inr (.inl ⟨kick, kicks ▸ known, same⟩)
      · exact knows_set there .loading (fun info told => by cases told) info' said
    · intro other member recording
      rw [show (world.closeClient info).onlineInfo = world.onlineInfo from online]
      exact recorded_set sound (by simp) other member recording
    · intro player sessionId bound
      have covers := sound.covered player sessionId (bound_of_shrink (closeClient_sockets world info) (congrFun sessions _) bound)
      by_cases same : player = login.player
      · subst same
        rcases covers_own sound there busy early covers with ⟨kick, known, own⟩ | ⟨info', told, same⟩
        · exact .inl ⟨kick, by rw [show (world.closeClient info).kicks = world.kicks from kicks]; exact known, own⟩
        · obtain rfl := Option.some.inj (Phase.told.inj (phase.symm.trans told))
          have closed := closeClient_closed located
          rw [same] at closed
          have isOpen := bound.1
          rw [show (world.closeClient info).sockets sessionId = none from closed] at isOpen
          cases isOpen
      · exact covers_other there rfl (fun kick known => by rw [show (world.closeClient info).kicks = world.kicks from kicks]; exact known)
          same (congrFun online player) covers
  · -- A kick is under way.
    have apart := single_set sound there .loading fun _ => .inl busy
    have recorded : ∀ other ∈ world.logins.set i { login with phase := .loading }, other.phase = .recording →
        world.onlineInfo other.player = some ⟨other.sessionId, other.connId⟩ := recorded_set sound (by simp)
    refine ⟨sound.made, sound.used, ?_, apart, recorded, ?_⟩
    · refine located_of_knows sound rfl (fun _ _ open_ => open_) fun info' knows => ?_
      rcases knows with known | ⟨kick, known, same⟩ | said
      · exact .inl known
      · rcases List.mem_append.mp known with known | new
        · exact .inr (.inl ⟨kick, known, same⟩)
        · obtain rfl := List.mem_singleton.mp new
          obtain rfl : info = info' := same
          exact .inr (.inr ⟨login, member, .inr phase⟩)
      · exact knows_set there .loading (fun info told => by cases told) info' said
    · intro player sessionId bound
      have covers := sound.covered player sessionId bound
      by_cases same : player = login.player
      · subst same
        rcases covers_own sound there busy early covers with ⟨kick, known, own⟩ | ⟨info', told, same⟩
        · exact .inl ⟨kick, List.mem_append_left _ known, own⟩
        · obtain rfl := Option.some.inj (Phase.told.inj (phase.symm.trans told))
          exact .inl ⟨⟨login.player, info⟩, List.mem_append_right _ List.mem_cons_self, rfl, same⟩
      · exact covers_other there rfl (fun kick known => List.mem_append_left _ known) same rfl covers

/-- The online info is stored. -/
def World.store (world : World) (login : Login) : World :=
  { world with onlineInfo := Function.update world.onlineInfo login.player (some ⟨login.sessionId, login.connId⟩) }

theorem sound_store (sound : Sound world) (there : world.logins[i]? = some login) (phase : login.phase = .loading) :
    Sound ((world.store login).turn i login .recording) := by
  have member := List.mem_of_getElem? there
  have busy : login.Busy := ⟨by rw [phase]; simp, by rw [phase]; simp⟩
  have apart := single_set sound there .recording fun _ => .inl busy
  refine ⟨sound.made, sound.used, ?_, apart, ?_, ?_⟩
  · refine located_of_knows sound rfl (fun _ _ open_ => open_) fun info knows => ?_
    rcases knows with ⟨player, known⟩ | known | said
    · by_cases same : player = login.player
      · subst same
        have own : (world.store login).onlineInfo login.player = some ⟨login.sessionId, login.connId⟩ := Function.update_self ..
        exact .inr (.inr ⟨login, member, .inl (Option.some.inj (own.symm.trans known)).symm⟩)
      · have other : (world.store login).onlineInfo player = world.onlineInfo player := Function.update_of_ne same ..
        exact .inl ⟨player, other.symm.trans known⟩
    · exact .inr (.inl known)
    · exact knows_set there .recording (fun info told => by cases told) info said
  · intro other known recording
    obtain ⟨k, found⟩ := List.mem_iff_getElem?.mp known
    by_cases isI : i = k
    · subst isI
      replace found : (world.logins.set i _)[i]? = some other := found
      rw [List.getElem?_set_self (List.getElem?_eq_some_iff.mp there).1] at found
      obtain rfl := Option.some.inj found
      exact Function.update_self ..
    · replace found : (world.logins.set i _)[k]? = some other := found
      rw [List.getElem?_set_ne isI] at found
      have different : other.player ≠ login.player := fun same =>
        isI (sound.single i k login other there found same.symm busy ⟨by rw [recording]; simp, by rw [recording]; simp⟩)
      exact (Function.update_of_ne different ..).trans (sound.recorded other (List.mem_of_getElem? found) recording)
  · intro player sessionId bound
    have covers := sound.covered player sessionId bound
    by_cases same : player = login.player
    · subst same
      rcases covers_own sound there busy (by rw [phase]; simp) covers with kicked | ⟨info, told, -⟩
      · exact .inl kicked
      · rw [phase] at told
        cases told
    · exact covers_other there rfl (fun _ known => known) same (Function.update_of_ne same ..) covers

theorem sound_giveUp (sound : Sound world) (there : world.logins[i]? = some login) (phase : login.phase = .loading) :
    Sound (world.turn i login .ended) := by
  have busy : login.Busy := ⟨by rw [phase]; simp, by rw [phase]; simp⟩
  refine sound_turn sound there (fun info told => by cases told) (fun late => absurd rfl late.2) (by simp) ?_
  exact covers_untold sound there busy (by rw [phase]; simp) fun info => by rw [phase]; simp

/-- The session record is stored. -/
def World.record (world : World) (login : Login) : World :=
  { world with sessions := Function.update world.sessions login.sessionId (some (login.connId, login.player)) }

theorem sound_end (sound : Sound world) (there : world.logins[i]? = some login) (phase : login.phase = .recording) :
    Sound (world.turn i login .ended) := by
  refine sound_turn sound there (fun info told => by cases told) (fun late => absurd rfl late.2) (by simp) ?_
  intro sessionId covers
  rcases covers with kicked | ⟨other, member, own, info, told, known⟩ | ⟨calm, named⟩
  · exact .inl kicked
  · rcases mem_set_of_mem there member { login with phase := .ended } with isLogin | member
    · rw [isLogin, phase] at told
      cases told
    · exact .inr (.inl ⟨other, member, own, info, told, known⟩)
  · refine .inr (.inr ⟨fun other member own busy => ?_, named⟩)
    rcases List.mem_or_eq_of_mem_set member with member | isNew
    · exact calm other member own busy
    · rw [isNew] at busy
      exact absurd rfl busy.2

theorem sound_record (sound : Sound world) (there : world.logins[i]? = some login) (phase : login.phase = .recording) :
    Sound ((world.record login).turn i login .ended) := by
  have member := List.mem_of_getElem? there
  have busy : login.Busy := ⟨by rw [phase]; simp, by rw [phase]; simp⟩
  have ended := sound_end sound there phase
  refine ⟨sound.made, fun sessionId record found => ?_, fun info knows => ended.located info knows, ended.single, ended.recorded,
    fun player sessionId bound => ?_⟩
  · by_cases same : sessionId = login.sessionId
    · subst same
      exact (sound.located _ (.inr (.inr ⟨login, member, .inl rfl⟩))).1
    · exact sound.used sessionId record ((Function.update_of_ne same ..).symm.trans found)
  · by_cases same : sessionId = login.sessionId
    · -- The session that is bound now is the one redis names.
      subst same
      have record : ((world.record login).turn i login .ended).sessions login.sessionId = some (login.connId, login.player) :=
        Function.update_self ..
      have own := bound.2
      rw [record] at own
      obtain rfl : login.player = player := Option.some.inj own
      refine .inr (.inr ⟨fun other known isOwn isBusy => ?_, ?_⟩)
      · obtain ⟨k, found⟩ := List.mem_iff_getElem?.mp known
        replace found : (world.logins.set i _)[k]? = some other := found
        by_cases isI : i = k
        · subst isI
          rw [List.getElem?_set_self (List.getElem?_eq_some_iff.mp there).1] at found
          obtain rfl := Option.some.inj found
          exact absurd rfl isBusy.2
        · rw [List.getElem?_set_ne isI] at found
          exact absurd (sound.single i k login other there found isOwn.symm busy isBusy) isI
      · show (world.onlineInfo login.player).map OnlineInfo.sessionId = _
        rw [sound.recorded login member phase]
        rfl
    · have other : ((world.record login).turn i login .ended).sessions sessionId = world.sessions sessionId :=
        Function.update_of_ne same ..
      exact ended.covered player sessionId ⟨bound.1, other ▸ bound.2⟩

/-! ### Everything else -/

theorem sound_shrink {world' : World} (sound : Sound world) (next : world'.nextSId = world.nextSId)
    (sockets : ∀ sessionId connId, world'.sockets sessionId = some connId → world.sockets sessionId = some connId)
    (sessions : ∀ sessionId record, world'.sessions sessionId = some record → world.sessions sessionId = some record)
    (online : world'.onlineInfo = world.onlineInfo) (logins : world'.logins = world.logins)
    (kicks : world'.kicks = world.kicks) : Sound world' := by
  refine ⟨fun sessionId connId there => ?_, fun sessionId record found => ?_, ?_, ?_, ?_, fun player sessionId bound => ?_⟩
  · rw [next]
    exact sound.made sessionId connId (sockets sessionId connId there)
  · rw [next]
    exact sound.used sessionId record (sessions sessionId record found)
  · refine located_of_knows sound next sockets fun info knows => ?_
    unfold World.Knows at knows
    rwa [online, logins, kicks] at knows
  · rw [logins]
    exact sound.single
  · rw [logins, online]
    exact sound.recorded
  · have before : world.Bound sessionId player := by
      obtain ⟨record, found, own⟩ := Option.map_eq_some_iff.mp bound.2
      obtain ⟨connId, there⟩ := Option.isSome_iff_exists.mp bound.1
      refine ⟨?_, ?_⟩
      · rw [sockets sessionId connId there]
        rfl
      · rw [sessions sessionId record found]
        exact congrArg some own
    have covers := sound.covered player sessionId before
    unfold World.Covers at covers ⊢
    rwa [online, logins, kicks]

/-- The turn of a login that has ended. -/
theorem turn_ended (there : world.logins[i]? = some login) (phase : login.phase = .ended) :
    world.logins.set i { login with phase := .ended } = world.logins := by
  rw [← phase]
  obtain ⟨inside, rfl⟩ := List.getElem?_eq_some_iff.mp there
  exact List.set_getElem_self inside

theorem sound_advance (sound : Sound world) (orderly : Orderly world (.advance i ok)) : Sound (move world (.advance i ok)) := by
  unfold move
  dsimp only
  split
  · exact sound
  · rename_i login there
    unfold World.advance
    split <;> rename_i phase
    · obtain ⟨rfl, alone, quiet⟩ := orderly login there phase
      exact sound_read sound there alone quiet
    · exact sound_told sound there phase
    · exact sound_kick sound there phase
    · cases ok with
      | true => exact sound_store sound there phase
      | false => exact sound_giveUp sound there phase
    · cases ok with
      | true => exact sound_shrink (sound_record sound there phase) rfl (fun _ _ open_ => open_) (fun _ _ found => found) rfl rfl rfl
      | false => exact sound_shrink (sound_end sound there phase) rfl (fun _ _ open_ => open_) (fun _ _ found => found) rfl rfl rfl
    · exact sound_shrink sound rfl (fun _ _ open_ => open_) (fun _ _ found => found) rfl (turn_ended there phase) rfl

theorem sound_createSession (sound : Sound world) (connId : String) : Sound (move world (.createSession connId)) := by
  have old {sessionId : Nat} (made : sessionId ≤ world.nextSId) :
      (move world (.createSession connId)).sockets sessionId = world.sockets sessionId :=
    Function.update_of_ne (by omega) ..
  refine ⟨fun sessionId connId' there => ?_, fun sessionId record found => Nat.le_succ_of_le (sound.used sessionId record found),
    fun info knows => ?_, sound.single, sound.recorded, fun player sessionId bound => ?_⟩
  · show sessionId ≤ world.nextSId + 1
    by_cases isNew : sessionId = world.nextSId + 1
    · omega
    · have before : world.sockets sessionId = some connId' := (Function.update_of_ne isNew ..).symm.trans there
      exact Nat.le_succ_of_le (sound.made sessionId connId' before)
  · obtain ⟨made, place⟩ := sound.located info knows
    exact ⟨Nat.le_succ_of_le made, fun connId' there => place connId' (old made ▸ there)⟩
  · obtain ⟨record, found, -⟩ := Option.map_eq_some_iff.mp bound.2
    exact sound.covered player sessionId ⟨old (sound.used sessionId record found) ▸ bound.1, bound.2⟩

theorem sound_loginGame (sound : Sound world) (sessionId : Nat) (player : UserArea) :
    Sound (move world (.loginGame sessionId player)) := by
  unfold move
  dsimp only
  split
  · exact sound
  rename_i connId there
  have idle : ¬ (⟨player, sessionId, connId, .asked⟩ : Login).Busy := fun busy => busy.1 rfl
  refine ⟨sound.made, sound.used, fun info knows => ?_, fun k l first second found found' same busy busy' => ?_,
    fun other member recording => ?_,
    fun player' sessionId' bound => ?_⟩
  · have either : world.Knows info ∨ info = ⟨sessionId, connId⟩ := by
      rcases knows with known | known | ⟨other, member, said⟩
      · exact .inl (.inl known)
      · exact .inl (.inr (.inl known))
      · rcases List.mem_append.mp member with member | new
        · exact .inl (.inr (.inr ⟨other, member, said⟩))
        · obtain rfl := List.mem_singleton.mp new
          rcases said with own | told
          · exact .inr own
          · cases told
    rcases either with known | rfl
    · exact sound.located info known
    · exact ⟨sound.made sessionId connId there, fun connId' there' => Option.some.inj (there'.symm.trans there)⟩
  · have before {k : Nat} {login : Login} (found : (world.logins ++ [⟨player, sessionId, connId, .asked⟩])[k]? = some login)
        (busy : login.Busy) : world.logins[k]? = some login := by
      by_cases inside : k < world.logins.length
      · rwa [List.getElem?_append_left inside] at found
      · rw [List.getElem?_append_right (by omega)] at found
        obtain rfl := List.mem_singleton.mp (List.mem_of_getElem? found)
        exact absurd busy idle
    exact sound.single k l first second (before found busy) (before found' busy') same busy busy'
  · rcases List.mem_append.mp member with member | new
    · exact sound.recorded other member recording
    · obtain rfl := List.mem_singleton.mp new
      cases recording
  · rcases sound.covered player' sessionId' bound with kicked | ⟨other, member, told⟩ | ⟨calm, named⟩
    · exact .inl kicked
    · exact .inr (.inl ⟨other, List.mem_append_left _ member, told⟩)
    · refine .inr (.inr ⟨fun other member own busy => ?_, named⟩)
      rcases List.mem_append.mp member with member | new
      · exact calm other member own busy
      · obtain rfl := List.mem_singleton.mp new
        exact absurd busy idle

theorem sound_kickClientOffline (sound : Sound world) (j : Nat) : Sound (move world (.kickClientOffline j)) := by
  unfold move
  dsimp only
  split
  · exact sound
  rename_i kick there
  have member := List.mem_of_getElem? there
  have located : world.Located kick.info := sound.located kick.info (.inr (.inl ⟨kick, member, rfl⟩))
  obtain ⟨next, online, sessions, logins, kicks⟩ := closeClient_rest world kick.info
  have closed : Sound (world.closeClient kick.info) :=
    sound_shrink sound next (closeClient_sockets world kick.info) (fun _ _ found => sessions ▸ found) online logins kicks
  refine ⟨closed.made, closed.used, fun info knows => ?_, closed.single, closed.recorded, fun player sessionId bound => ?_⟩
  · refine closed.located info ?_
    rcases knows with known | ⟨other, known, same⟩ | said
    · exact .inl known
    · exact .inr (.inl ⟨other, kicks ▸ List.mem_of_mem_eraseIdx known, same⟩)
    · exact .inr (.inr said)
  · rcases closed.covered player sessionId bound with ⟨other, known, own, same⟩ | told | named
    · rw [kicks] at known
      obtain ⟨k, found⟩ := List.mem_iff_getElem?.mp known
      by_cases isJ : k = j
      · -- The session this kick was sent to is closed.
        subst isJ
        obtain rfl := Option.some.inj (found.symm.trans there)
        have gone := closeClient_closed located
        rw [same] at gone
        have isOpen := bound.1
        rw [show ({ world.closeClient other.info with kicks := world.kicks.eraseIdx k } : World).sockets sessionId =
          none from gone] at isOpen
        cases isOpen
      · exact .inl ⟨other, List.mem_eraseIdx_iff_getElem?.mpr ⟨k, isJ, found⟩, own, same⟩
    · exact .inr (.inl told)
    · exact .inr (.inr named)

theorem sound_exitGame (sound : Sound world) (orderly : Orderly world (.exitGame player)) : Sound (move world (.exitGame player)) := by
  obtain ⟨unbound, unrecorded⟩ := orderly
  have other {player' : UserArea} (different : player' ≠ player) :
      (move world (.exitGame player)).onlineInfo player' = world.onlineInfo player' := Function.update_of_ne different ..
  refine ⟨sound.made, sound.used, fun info knows => sound.located info ?_, sound.single, fun login member recording => ?_,
    fun player' sessionId bound => ?_⟩
  · rcases knows with ⟨player', known⟩ | known
    · by_cases same : player' = player
      · subst same
        have gone : (move world (.exitGame player')).onlineInfo player' = none := Function.update_self ..
        cases gone.symm.trans known
      · exact .inl ⟨player', other same ▸ known⟩
    · exact .inr known
  · have different : login.player ≠ player := fun same => unrecorded login member same recording
    exact (other different).trans (sound.recorded login member recording)
  · have different : player' ≠ player := fun same => unbound sessionId (same ▸ bound)
    rcases sound.covered player' sessionId bound with kicked | told | ⟨calm, named⟩
    · exact .inl kicked
    · exact .inr (.inl told)
    · exact .inr (.inr ⟨calm, (congrArg _ (other different)).trans named⟩)

theorem sound_move {step : Step} (sound : Sound world) (orderly : Orderly world step) : Sound (move world step) := by
  cases step with
  | createSession connId => exact sound_createSession sound connId
  | loginGame sessionId player => exact sound_loginGame sound sessionId player
  | advance i ok => exact sound_advance sound orderly
  | kickClientOffline j => exact sound_kickClientOffline sound j
  | destroy sessionId =>
    refine sound_shrink sound rfl (fun other connId there => ?_) (fun _ _ found => found) rfl rfl rfl
    by_cases same : other = sessionId
    · subst same
      cases (Function.update_self ..).symm.trans there
    · exact (Function.update_of_ne same ..).symm.trans there
  | delSession sessionId =>
    refine sound_shrink sound rfl (fun _ _ open_ => open_) (fun other record found => ?_) rfl rfl rfl
    by_cases same : other = sessionId
    · subst same
      cases (Function.update_self ..).symm.trans found
    · exact (Function.update_of_ne same ..).symm.trans found
  | exitGame player => exact sound_exitGame sound orderly

end

def ann : UserArea := ⟨"1", "ann"⟩

/-- A login that has the list's place to itself, from its call to its end. -/
def whole (sessionId i : Nat) : List Step := .loginGame sessionId ann :: List.replicate 4 (.advance i true)

/-- Ann logs in on one server, then on another, and the kick arrives. -/
def again : List Step := [.createSession "a", .createSession "b"] ++ whole 1 0 ++ whole 2 1 ++ [.kickClientOffline 0]

theorem orderly_advance (checked : ∀ login ∈ world.logins[i]?, login.phase = .asked →
    ok = true ∧ (∀ other ∈ world.logins, other.player = login.player → ¬ other.Busy) ∧ ∀ kick ∈ world.kicks, kick.player ≠ login.player) :
    Orderly world (.advance i ok) := fun login there => checked login there

/-- Ann logs in twice at once. -/
def atOnce : List Step := [.createSession "a", .createSession "b", .loginGame 1 ann, .loginGame 2 ann] ++
  [.advance 0 true, .advance 1 true] ++ [.advance 0 true, .advance 1 true] ++ [.advance 0 true, .advance 1 true] ++
  [.advance 0 true, .advance 1 true]

end Tinygame.Conn
