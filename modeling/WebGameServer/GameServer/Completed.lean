import WebGameServer.BaseServer.Completion
import WebGameServer.GameServer.Loop

namespace WebGameServer
set_option autoImplicit true

section Local

variable {T : Traits} {G Worker : Type} {cfg : Config T} {inst : GameInstance T G}
  {timestep : Int} {gs gs' : GameServer T G Worker} {log : List (Event T)}

/-- The connection updates that the tick in progress has not processed yet. -/
def GamePc.todo : GamePc T → List (ConnectionUpdate T)
  | .connecting _ todo => todo
  | _ => []

def GamePc.ended : GamePc T → Option T.SessionId
  | .ending sid _ => some sid
  | _ => none

theorem GamePc.not_ended {pc : GamePc T} {P : Prop} (h : pc.ended = none)
    (he : pc.ended = some sid) : P := by
  rw [h] at he
  cases he

/-- Between the swap of the connection updates and the erasure of the ended games. -/
def GamePc.beforeErasure : GamePc T → Bool
  | .connecting _ _ | .erasing _ => true
  | _ => false

/-- Between the erasure of the ended games and the search for the next ones. -/
def GamePc.afterErasure : GamePc T → Bool
  | .updating _ | .sending _ | .sendingTo _ _ _ => true
  | _ => false

/-- In the loop of `process_connection_updates`. -/
def GamePc.processing : GamePc T → Bool
  | .connecting _ _ => true
  | _ => false

def GameServer.unprocessed (gs : GameServer T G Worker) : List (ConnectionUpdate T) :=
  gs.loop.todo ++ gs.connectionUpdates.1

/-- The session has ended and its game waits to be erased in the next tick. -/
def GameServer.Ended (gs : GameServer T G Worker) (sid : T.SessionId) : Prop :=
  sid ∈ gs.finishedGames ∨ gs.loop.ended = some sid

/-- Where a session that was passed to `complete_session` can still occur: with a game only
if the game waits to be erased, and in the queued connects only if the session was rejected
or its game waits to be erased. -/
structure Tidy (gs : GameServer T G Worker) : Prop where
  games : ∀ sid g, gs.games.lookup sid = some g → Completed gs.base.log sid → gs.Ended sid
  queued : ∀ cid data, .connection cid data ∈ gs.unprocessed → Completed gs.base.log cid.session →
    cid.session ∈ gs.rejected ∨ (gs.Ended cid.session ∧ gs.games.lookup cid.session ≠ none)
  fresh : gs.loop.beforeErasure = true → ∀ cid data,
    .connection cid data ∈ gs.connectionUpdates.1 → Completed gs.base.log cid.session →
    cid.session ∈ gs.rejected
  erased : gs.loop.afterErasure = true → gs.finishedGames = []
  cleared : gs.loop.processing = false → gs.connectionUpdates.2 = []

theorem unprocessed_subset (htodo : gs'.loop.todo ⊆ gs.loop.todo)
    (hupdates : gs'.connectionUpdates = gs.connectionUpdates) :
    gs'.unprocessed ⊆ gs.unprocessed := by
  rw [GameServer.unprocessed, GameServer.unprocessed, hupdates]
  exact List.append_subset.2
    ⟨List.subset_append_of_subset_left _ htodo, List.subset_append_right _ _⟩

theorem unprocessed_rest (hl : gs.loop = .connecting t (u :: todo)) :
    todo ++ gs.connectionUpdates.1 ⊆ gs.unprocessed := by
  rw [GameServer.unprocessed, hl]
  exact List.subset_cons_self _ _

/-- A step of the loop that completes no session, adds and removes no game and queues
nothing. -/
theorem Tidy.advance (h : Tidy gs)
    (hlog : ∀ sid, Completed gs'.base.log sid → Completed gs.base.log sid)
    (hgames : ∀ sid, gs'.games.lookup sid = none ↔ gs.games.lookup sid = none)
    (hupdates : gs'.connectionUpdates = gs.connectionUpdates)
    (hfinished : gs'.finishedGames = gs.finishedGames) (hrejected : gs'.rejected = gs.rejected)
    (htodo : gs'.loop.todo ⊆ gs.loop.todo) (hended : gs'.loop.ended = gs.loop.ended)
    (hbefore : gs'.loop.beforeErasure = true → gs.loop.beforeErasure = true)
    (hafter : gs'.loop.afterErasure = true → gs.loop.afterErasure = true)
    (hprocessing : gs'.loop.processing = false → gs.loop.processing = false) : Tidy gs' := by
  constructor
  · intro sid g hg hc
    have hn : gs.games.lookup sid ≠ none := by
      rw [ne_eq, ← hgames, hg]
      exact nofun
    obtain ⟨g', hg'⟩ := Option.ne_none_iff_exists'.1 hn
    simpa only [GameServer.Ended, hfinished, hended] using h.games sid g' hg' (hlog sid hc)
  · intro cid data hm hc
    simp only [GameServer.Ended, hfinished, hended, hrejected, ne_eq, hgames]
    exact h.queued cid data (unprocessed_subset htodo hupdates hm) (hlog _ hc)
  · intro hb cid data hm hc
    rw [hrejected]
    exact h.fresh (hbefore hb) cid data (hupdates ▸ hm) (hlog _ hc)
  · intro ha
    rw [hfinished]
    exact h.erased (hafter ha)
  · intro hp
    rw [hupdates]
    exact h.cleared (hprocessing hp)

theorem Tidy.createGame (h : Tidy gs) (hl : gs.loop = .connecting t (.connection cid data :: todo))
    (hn : gs.games.lookup cid.session = none) (hfit : cid.session ∉ gs.rejected) (game : G) :
    Tidy { (gs.createGame cid.session game).connectPlayer inst ⟨game, []⟩ cid with
      loop := .connecting t todo } := by
  have hnew : ¬ Completed gs.base.log cid.session := by
    intro hc
    have hm : .connection cid data ∈ gs.unprocessed := by
      rw [GameServer.unprocessed, hl]
      exact List.mem_append_left _ List.mem_cons_self
    rcases h.queued cid data hm hc with hr | ⟨-, hg⟩
    · exact hfit hr
    · exact hg hn
  have hended : gs.loop.ended = none := by rw [hl]; rfl
  have hlookup : ∀ sid, sid ≠ cid.session →
      ((gs.createGame cid.session game).connectPlayer inst ⟨game, []⟩ cid).games.lookup sid =
        gs.games.lookup sid := by
    intro sid hs
    simp only [GameServer.connectPlayer, GameServer.store, GameServer.createGame,
      Map.lookup_insert_ite, hs, ↓reduceIte]
  constructor
  · intro sid g hg hc
    by_cases hs : sid = cid.session
    · exact (hnew (hs ▸ hc)).elim
    · apply (h.games sid g (hlookup sid hs ▸ hg) hc).imp_right
      intro he
      rw [hended] at he
      cases he
  · intro cid' data' hm hc
    have hs : cid'.session ≠ cid.session := fun he => hnew (he ▸ hc)
    refine (h.queued cid' data' (unprocessed_rest hl hm) hc).imp_right
      (And.imp (fun he => he.imp_right fun he => ?_) fun hg => hlookup _ hs ▸ hg)
    rw [hended] at he
    cases he
  · intro _ cid' data' hm hc
    exact h.fresh (by rw [hl]; rfl) cid' data' hm hc
  · exact Bool.noConfusion
  · exact Bool.noConfusion

theorem Tidy.rejectData (h : Tidy gs) (hl : gs.loop = .connecting t (.connection cid data :: todo))
    (hn : gs.games.lookup cid.session = none) :
    Tidy { gs.called [.completing cid.session r] s pc with
      loop := .connecting t todo
      rejected := cid.session :: gs.rejected } := by
  have hended : gs.loop.ended = none := by rw [hl]; rfl
  have hold : ∀ sid, Completed (gs.base.log ++ [.completing cid.session r]) sid →
      sid ≠ cid.session → Completed gs.base.log sid := by
    intro sid hc hs
    rcases hc.of_append with hc | ⟨r', hm⟩
    · exact hc
    · cases List.mem_singleton.1 hm
      exact (hs rfl).elim
  constructor
  · intro sid g hg hc
    have hs : sid ≠ cid.session := by
      rintro rfl
      have hg' : gs.games.lookup cid.session = some g := hg
      rw [hn] at hg'
      cases hg'
    apply (h.games sid g hg (hold sid hc hs)).imp_right
    intro he
    rw [hended] at he
    cases he
  · intro cid' data' hm hc
    by_cases hs : cid'.session = cid.session
    · exact .inl (hs ▸ List.mem_cons_self)
    · rcases h.queued cid' data' (unprocessed_rest hl hm) (hold _ hc hs) with hr | ⟨he, hg⟩
      · exact .inl (List.mem_cons_of_mem _ hr)
      · refine .inr ⟨he.imp_right fun he => ?_, hg⟩
        rw [hended] at he
        cases he
  · intro _ cid' data' hm hc
    by_cases hs : cid'.session = cid.session
    · exact hs ▸ List.mem_cons_self
    · exact List.mem_cons_of_mem _ (h.fresh (by rw [hl]; rfl) cid' data' hm (hold _ hc hs))
  · exact nofun
  · exact nofun

theorem Tidy.swapUpdates (h : Tidy gs) (hl : gs.loop = .timing t) :
    Tidy { gs.swapUpdates with loop := .connecting t gs.connectionUpdates.1 } := by
  have hsecond : gs.connectionUpdates.2 = [] := h.cleared (by rw [hl]; rfl)
  have hended : gs.loop.ended = none := by rw [hl]; rfl
  have hkeep : ∀ sid, gs.Ended sid →
      GameServer.Ended { gs.swapUpdates with
        loop := .connecting t gs.connectionUpdates.1 } sid := by
    refine fun sid he => he.imp_right fun he => ?_
    rw [hended] at he
    cases he
  constructor
  · exact fun sid g hg hc => hkeep sid (h.games sid g hg hc)
  · intro cid data hm hc
    have hm' : .connection cid data ∈ gs.unprocessed := by
      simp only [GameServer.unprocessed, hl, GamePc.todo, GameServer.swapUpdates, hsecond,
        List.append_nil, List.nil_append] at hm ⊢
      exact hm
    exact (h.queued cid data hm' hc).imp_right fun ⟨he, hg⟩ => ⟨hkeep _ he, hg⟩
  · intro _ cid data hm
    simp only [GameServer.swapUpdates, hsecond, List.not_mem_nil] at hm
  · exact nofun
  · exact nofun

theorem Tidy.clearUpdates (h : Tidy gs) (hl : gs.loop = .connecting t []) :
    Tidy { gs with
      connectionUpdates := (gs.connectionUpdates.1, [])
      loop := .erasing t } := by
  have hbefore : gs.loop.beforeErasure = true := by rw [hl]; rfl
  have hended : gs.loop.ended = none := by rw [hl]; rfl
  constructor
  · intro sid g hg hc
    apply (h.games sid g hg hc).imp_right
    intro he
    rw [hended] at he
    cases he
  · intro cid data hm hc
    exact .inl (h.fresh hbefore cid data hm hc)
  · exact fun _ => h.fresh hbefore
  · exact nofun
  · exact fun _ => rfl

theorem unprocessed_erasing (hl : gs.loop = .erasing t) :
    gs.unprocessed = gs.connectionUpdates.1 := by
  rw [GameServer.unprocessed, hl]
  exact List.nil_append _

theorem Tidy.eraseFinished (h : Tidy gs) (hl : gs.loop = .erasing t)
    (hf : gs.finishedGames = a :: rest) :
    Tidy { gs.eraseGame a with finishedGames := rest } := by
  have hqueued : gs.unprocessed = gs.connectionUpdates.1 := unprocessed_erasing hl
  have hbefore : gs.loop.beforeErasure = true := by rw [hl]; rfl
  constructor
  · intro sid g hg hc
    have hg' := (gs.lookup_eraseGame a sid).symm.trans hg
    split at hg'
    · cases hg'
    · next hs =>
      apply (h.games sid g hg' hc).imp_left
      intro hm
      rw [hf] at hm
      exact (List.mem_cons.1 hm).resolve_left hs
  · intro cid data hm hc
    exact .inl (h.fresh hbefore cid data (hqueued ▸ hm) hc)
  · exact h.fresh
  · intro ha
    have he : gs.loop.afterErasure = true := ha
    rw [hl] at he
    cases he
  · exact h.cleared

theorem Tidy.clearFinished (h : Tidy gs) (hl : gs.loop = .erasing t)
    (hf : gs.finishedGames = []) : Tidy { gs with loop := .updating t } := by
  have hbefore : gs.loop.beforeErasure = true := by rw [hl]; rfl
  constructor
  · intro sid g hg hc
    rcases h.games sid g hg hc with he | he
    · exact .inl he
    · rw [hl] at he
      cases he
  · intro cid data hm hc
    exact .inl (h.fresh hbefore cid data hm hc)
  · exact nofun
  · exact fun _ => hf
  · exact fun _ => h.cleared (by rw [hl]; rfl)

theorem Tidy.endGame (h : Tidy gs) (hl : gs.loop = .finishing todo) (sid : T.SessionId)
    (hg : gs.games.lookup sid = some g) :
    Tidy { gs.called [.completing sid r] s pc with loop := .ending sid (todo.erase sid) } := by
  have hended : gs.loop.ended = none := by rw [hl]; rfl
  have hold : ∀ sid', Completed (gs.base.log ++ [.completing sid r]) sid' →
      sid' ≠ sid → Completed gs.base.log sid' := by
    intro sid' hc hs
    rcases hc.of_append with hc | ⟨r', hm⟩
    · exact hc
    · cases List.mem_singleton.1 hm
      exact (hs rfl).elim
  have hkeep : ∀ sid', gs.Ended sid' → sid' ∈ gs.finishedGames := by
    refine fun sid' he => he.resolve_right fun he => ?_
    rw [hended] at he
    cases he
  constructor
  · intro sid' g' hg' hc
    by_cases hs : sid' = sid
    · exact .inr (hs ▸ rfl)
    · exact .inl (hkeep sid' (h.games sid' g' hg' (hold sid' hc hs)))
  · intro cid data hm hc
    by_cases hs : cid.session = sid
    · refine .inr ⟨.inr (hs ▸ rfl), ?_⟩
      have hg' : gs.games.lookup cid.session = some g := hs ▸ hg
      exact fun hn => nomatch hg'.symm.trans hn
    · have hm' : .connection cid data ∈ gs.unprocessed := by
        rw [GameServer.unprocessed, hl]
        exact hm
      exact (h.queued cid data hm' (hold _ hc hs)).imp_right fun ⟨he, hg⟩ =>
        ⟨.inl (hkeep _ he), hg⟩
  · exact nofun
  · exact nofun
  · exact fun _ => h.cleared (by rw [hl]; rfl)

theorem Tidy.pushFinished (h : Tidy gs) (hl : gs.loop = .ending sid todo) :
    Tidy { gs with
      finishedGames := gs.finishedGames ++ [sid]
      loop := .finishing todo } := by
  have hkeep : ∀ sid', gs.Ended sid' → GameServer.Ended { gs with
      finishedGames := gs.finishedGames ++ [sid]
      loop := .finishing todo } sid' := by
    rintro sid' (he | he)
    · exact .inl (List.mem_append_left _ he)
    · rw [hl] at he
      cases he
      exact .inl (List.mem_append_right _ (List.mem_singleton.2 rfl))
  refine ⟨fun sid' g hg hc => hkeep sid' (h.games sid' g hg hc), fun cid data hm hc => ?_, nofun,
    nofun, fun _ => h.cleared (by rw [hl]; rfl)⟩
  have hm' : .connection cid data ∈ gs.unprocessed := by
    rw [GameServer.unprocessed, hl]
    exact hm
  exact (h.queued cid data hm' hc).imp_right fun ⟨he, hg⟩ => ⟨hkeep _ he, hg⟩

theorem lookup_store_eq_none (gs : GameServer T G Worker) (hg : gs.games.lookup sid = some g)
    (calls : List (GameCall T)) (r : G × List (Message T)) (a : T.SessionId) :
    (gs.store sid calls r).games.lookup a = none ↔ gs.games.lookup a = none := by
  simp only [GameServer.store, Map.lookup_insert_ite]
  by_cases h : a = sid
  · subst h
    simp only [↓reduceIte, reduceCtorEq, hg]
  · simp only [h, ↓reduceIte]

/-- No connect with valid data of a session that was rejected before starts a game. -/
def StartsUnrejected (inst : GameInstance T G) (gs : GameServer T G Worker)
    (_ : List (Event T)) (gs' : GameServer T G Worker) : Prop :=
  ∀ t cid data todo, gs.loop = .connecting t (.connection cid data :: todo) →
    gs'.loop = .connecting t todo → gs.games.lookup cid.session = none →
    inst.isValid (inst.construct data) = true → cid.session ∉ gs.rejected

theorem LoopStep.tidy (h : LoopStep cfg inst timestep gs evs gs') (hs : Tidy gs)
    (hstart : StartsUnrejected inst gs evs gs') : Tidy gs' := by
  have move {pc : GamePc T} (ht : pc.todo ⊆ gs.loop.todo) (he : pc.ended = gs.loop.ended)
      (hb : pc.beforeErasure = true → gs.loop.beforeErasure = true)
      (ha : pc.afterErasure = true → gs.loop.afterErasure = true)
      (hp : pc.processing = false → gs.loop.processing = false) :
      Tidy { gs with loop := pc } :=
    hs.advance (fun _ => id) (fun _ => .rfl) rfl rfl rfl ht he hb ha hp
  cases h with
  | enter t hl hr | exit hl hr | lock hl hg | noGames hl hg | wait hl hu | pass hl hu
  | wakeStopped hl hr | wake hl hr hu | recheck hl hr hu | relock hl | sleep hl ht | sendDone hl
  | skipGame sid hl hm hg hd | finish hl =>
    exact move (List.nil_subset _) (by rw [hl]; rfl) Bool.noConfusion Bool.noConfusion
      (fun _ => by rw [hl]; rfl)
  | swapUpdates hl ht => exact hs.swapUpdates hl
  | disconnectIgnored hl hg =>
    refine move ?_ (by rw [hl]; rfl) (fun _ => by rw [hl]; rfl) nofun nofun
    rw [hl]
    exact List.subset_cons_self _ _
  | disconnectPlayer hl hg | connectPlayer hl hg =>
    refine hs.advance (fun _ => id) (lookup_store_eq_none gs hg _ _) rfl rfl rfl ?_ ?_ ?_ nofun
      nofun
    · rw [hl]
      exact List.subset_cons_self _ _
    · rw [hl]; rfl
    · exact fun _ => by rw [hl]; rfl
  | createGame hl hn hv => exact hs.createGame hl hn (hstart _ _ _ _ hl rfl hn hv) _
  | rejectData hl hn hv hc => exact hs.rejectData hl hn
  | clearUpdates hl => exact hs.clearUpdates hl
  | eraseFinished hl hf => exact hs.eraseFinished hl hf
  | clearFinished hl hf => exact hs.clearFinished hl hf
  | @updateGames _ t order hl hn ho =>
    have hlookup := gs.lookup_processGameUpdates inst t order hn ho
    have he := gs.processGameUpdates_eq inst t order
    refine hs.advance ?_ (fun sid => ?_) ?_ ?_ ?_ nofun ?_ nofun ?_ ?_
    · rw [he]
      exact fun _ => id
    · rw [hlookup, Option.map_eq_none_iff]
    · rw [he]
    · rw [he]
    · rw [he]
    · rw [hl]; rfl
    · exact fun _ => by rw [hl]; rfl
    · exact fun _ => by rw [hl]; rfl
  | sendSession sid hl hm =>
    exact move nofun (by rw [hl]; rfl) nofun (fun _ => by rw [hl]; rfl)
      (fun _ => by rw [hl]; rfl)
  | sendMessage hl hc =>
    refine hs.advance (fun sid hc => ?_) (fun _ => .rfl) rfl rfl rfl nofun (by rw [hl]; rfl)
      nofun (fun _ => by rw [hl]; rfl) (fun _ => by rw [hl]; rfl)
    rcases hc.of_append with hc | ⟨r, hm⟩
    · exact hc
    · cases List.mem_singleton.1 hm
  | clearMessages hl =>
    exact hs.advance (fun _ => id) (fun _ => .rfl) rfl rfl rfl nofun (by rw [hl]; rfl)
      nofun (fun _ => by rw [hl]; rfl) (fun _ => by rw [hl]; rfl)
  | endGame sid hl hm hg hd hc => exact hs.endGame hl sid hg
  | pushFinished hl => exact hs.pushFinished hl

theorem Tidy.outer (h : Tidy gs) (hevs : ∀ sid r, .completing sid r ∉ evs)
    (hopen : ∀ cid data, .handleOpen cid data ∈ evs → ¬ Completed gs.base.log cid.session)
    (hlog : gs'.base.log = gs.base.log ++ evs)
    (hupdates : gs'.connectionUpdates =
      (gs.connectionUpdates.1 ++ evs.filterMap Event.connectionUpdate, gs.connectionUpdates.2))
    (hgames : gs'.games = gs.games) (hfinished : gs'.finishedGames = gs.finishedGames)
    (hrejected : gs'.rejected = gs.rejected) (hloop : gs'.loop = gs.loop) : Tidy gs' := by
  have hold : ∀ sid, Completed gs'.base.log sid → Completed gs.base.log sid := by
    intro sid hc
    rw [hlog] at hc
    rcases hc.of_append with hc | ⟨r, hm⟩
    · exact hc
    · exact (hevs sid r hm).elim
  have hfirst : ∀ cid data, .connection cid data ∈ gs'.connectionUpdates.1 →
      Completed gs'.base.log cid.session → .connection cid data ∈ gs.connectionUpdates.1 := by
    intro cid data hm hc
    rw [hupdates] at hm
    rcases List.mem_append.1 hm with hm | hm
    · exact hm
    · obtain ⟨e, he, hu⟩ := List.mem_filterMap.1 hm
      cases e <;> simp only [Event.connectionUpdate, Option.some.injEq, reduceCtorEq,
        ConnectionUpdate.connection.injEq] at hu
      obtain ⟨rfl, rfl⟩ := hu
      exact (hopen _ _ he (hold _ hc)).elim
  constructor
  · intro sid g hg hc
    simpa only [GameServer.Ended, hfinished, hloop] using h.games sid g (hgames ▸ hg) (hold _ hc)
  · intro cid data hm hc
    simp only [GameServer.Ended, hfinished, hloop, hrejected, hgames]
    apply h.queued cid data ?_ (hold _ hc)
    rcases List.mem_append.1 hm with hm | hm
    · exact List.mem_append_left _ (hloop ▸ hm)
    · exact List.mem_append_right _ (hfirst cid data hm hc)
  · intro hb cid data hm hc
    rw [hrejected]
    exact h.fresh (hloop ▸ hb) cid data (hfirst cid data hm hc) (hold _ hc)
  · intro ha
    rw [hfinished]
    exact h.erased (hloop ▸ ha)
  · intro hp
    rw [hupdates]
    exact h.cleared (hloop ▸ hp)

end Local

section Run

variable {T : Traits} {G Worker : Type} [DecidableEq Worker] {cfg : Config T}
  {inst : GameInstance T G} {timestep : Int} {gs gs' : GameServer T G Worker}

/-- A step of a run without `stop` and without the release of a lock. -/
structure Lasting (gs : GameServer T G Worker) (evs : List (Event T))
    (gs' : GameServer T G Worker) : Prop where
  running : .stopping ∉ evs
  locks : KeepsLocks gs.base evs gs'.base

omit [DecidableEq Worker] in
theorem Lasting.quiet (h : LoopStep cfg inst timestep gs [] gs') : Lasting gs [] gs' where
  running := List.not_mem_nil
  locks sid := by
    rw [h.base_eq]
    exact id

/-- Moreover, no session that was rejected gets a game. -/
structure Faithful (inst : GameInstance T G) (gs : GameServer T G Worker)
    (evs : List (Event T)) (gs' : GameServer T G Worker) : Prop extends Lasting gs evs gs' where
  starts : StartsUnrejected inst gs evs gs'

theorem tidy_invariant : ((gameServer cfg inst timestep).restrict (Faithful inst)).Invariant
    fun gs : GameServer T G Worker => Tidy gs where
  init := by
    intro gs hinit
    obtain ⟨t, rfl⟩ := hinit
    exact ⟨nofun, nofun, nofun, nofun, fun _ => rfl⟩
  step {gs evs gs'} hr hs h := by
    obtain ⟨h, hf⟩ := h
    have hbase : ((baseServer cfg).restrict KeepsLocks).Reachable gs.base :=
      gameServer_project (fun h => h.running) (fun h => h.locks) hr
    have hlocking := sessionLocking_invariant.reachable hbase.of_restrict
    have hopen : ∀ cid data, .handleOpen cid data ∈ evs →
        ¬ Completed gs.base.log cid.session := by
      intro cid data he hc
      obtain ⟨r, hd⟩ := decided_invariant.reachable hbase cid.session hc
      rcases h.project hf.running with ⟨rfl, -⟩ | hb
      · cases he
      · exact hb.handleOpen_undecided hlocking he hd
    cases h with
    | transport h =>
      refine hs.outer (fun sid r => h.no_completing) hopen rfl ?_ rfl rfl rfl rfl
      rw [filterMap_unhandled h.unhandled Event.connectionUpdate_of_unhandled, List.append_nil]
    | worker w h hfree =>
      rw [GameServer.foldl_handle_eq]
      exact hs.outer (fun sid r => h.no_completing) hopen rfl rfl rfl rfl rfl rfl
    | loop hidle h => exact h.tidy hs hf.starts
    | call hbusy h =>
      refine hs.outer (fun sid r => h.busy_no_completing hbusy) hopen rfl ?_ rfl rfl rfl rfl
      rw [filterMap_unhandled h.unhandled Event.connectionUpdate_of_unhandled,
        List.append_nil]
      rfl
    | run h =>
      refine hs.outer (fun sid r => h.no_completing) hopen rfl ?_ rfl rfl rfl rfl
      exact Prod.ext (List.append_nil _).symm rfl
    | stop h => cases h <;> exact (hf.running List.mem_cons_self).elim

/-- Without `stop` and the release of locks, and as long as no session that was rejected gets
a game: a session with a game was never completed or its game waits to be erased, and no
completed session has a game when the games are updated. -/
theorem no_live_game_for_completed_session
    (hgs : ((gameServer cfg inst timestep).restrict (Faithful inst)).Reachable gs) :
    (gs.loop.ended = none → ∀ sid g, gs.games.lookup sid = some g →
      ¬ Completed gs.base.log sid ∨ sid ∈ gs.finishedGames) ∧
    ∀ t, gs.loop = .updating t → ∀ sid g, gs.games.lookup sid = some g →
      ¬ Completed gs.base.log sid := by
  have hs := tidy_invariant.reachable hgs
  constructor
  · intro he sid g hg
    by_cases hc : Completed gs.base.log sid
    · refine .inr ((hs.games sid g hg hc).resolve_right fun h => ?_)
      rw [he] at h
      cases h
    · exact .inl hc
  · intro t hl sid g hg hc
    have hfinished := hs.erased (by rw [hl]; rfl)
    rcases hs.games sid g hg hc with h | h
    · rw [hfinished] at h
      cases h
    · rw [hl] at h
      cases h

theorem Lasting.loop (h : ((gameServer cfg inst timestep).restrict Lasting).Reachable gs)
    (hidle : gs.base.caller () = .idle) (hs : LoopStep cfg inst timestep gs [] gs') :
    ((gameServer cfg inst timestep).restrict Lasting).Reachable gs' :=
  h.step ⟨.loop hidle hs, .quiet hs⟩

end Run

/-- Eve's data is invalid and Bob's is not, and both connects are in one batch: session 7 is
completed and then gets a game, which is not going to be erased. -/
theorem rejected_session_gets_game :
    ∃ gs : GameServer natTraits Nat Unit,
      ((gameServer natConfig natGame 0).restrict Lasting).Reachable gs ∧
      gs.loop = .testing ∧ gs.games.lookup 7 ≠ none ∧ Completed gs.base.log 7 ∧
      7 ∉ gs.finishedGames := by
  have h0 : ((gameServer natConfig natGame 0).restrict Lasting).Reachable
      (GameServer.start 0 : GameServer natTraits Nat Unit) := .init ⟨0, rfl⟩
  have h1 := h0.step ⟨.run (.run rfl), by simp, fun _ => id⟩
  have h2 := h1.step ⟨.transport (.onMessage (5 : Nat) "eve"), by simp, fun _ => id⟩
  have h3 := h2.step ⟨.transport (.onMessage (6 : Nat) "bob"), by simp, fun _ => id⟩
  have h4 := h3.step ⟨.worker () (.enter rfl) nofun, by simp, fun _ => id⟩
  have h5 := h4.step ⟨.worker () (.pop rfl) nofun, by simp, fun _ => id⟩
  have h6 := h5.step ⟨.worker () (.messageUnbound rfl rfl) nofun, by simp, fun _ => id⟩
  have h7 := h6.step ⟨.worker () (.openSession ⟨0, 0⟩ rfl rfl rfl) nofun, by simp, fun _ => id⟩
  have h8 := h7.step ⟨.worker () .setupConnectionId nofun, by simp, fun _ => id⟩
  have h9 := h8.step ⟨.worker () .handleOpen nofun, by simp, fun _ => id⟩
  have h10 := h9.step ⟨.worker () (.enter rfl) nofun, by simp, fun _ => id⟩
  have h11 := h10.step ⟨.worker () (.pop rfl) nofun, by simp, fun _ => id⟩
  have h12 := h11.step ⟨.worker () (.messageUnbound rfl rfl) nofun, by simp, fun _ => id⟩
  have h13 := h12.step
    ⟨.worker () (.openSession ⟨0, 0⟩ rfl rfl rfl) nofun, by simp, fun _ => id⟩
  have h14 := h13.step ⟨.worker () .setupConnectionId nofun, by simp, fun _ => id⟩
  have h15 := h14.step ⟨.worker () .handleOpen nofun, by simp, fun _ => id⟩
  have h16 := Lasting.loop h15 rfl (.enter 0 rfl rfl)
  have h17 := Lasting.loop h16 rfl (.noGames rfl rfl)
  have h18 := Lasting.loop h17 rfl (.pass rfl nofun)
  have h19 := Lasting.loop h18 rfl (.relock rfl)
  have h20 := Lasting.loop h19 rfl (.swapUpdates rfl (by decide))
  have h21 := h20.step
    ⟨.loop rfl (.rejectData rfl rfl rfl (.completeSession ⟨0, 0⟩ _ _ rfl rfl)), by simp,
      fun _ => id⟩
  have h22 := h21.step ⟨.call nofun (.findPlayer (3 : Nat) (by decide) rfl), by simp, fun _ => id⟩
  have h23 := h22.step ⟨.call nofun .closePlayer, by simp, fun _ => id⟩
  have h24 := h23.step ⟨.call nofun (.findPlayer (2 : Nat) (by decide) rfl), by simp, fun _ => id⟩
  have h25 := h24.step ⟨.call nofun .closePlayer, by simp, fun _ => id⟩
  have h26 := h25.step ⟨.call nofun .lockSession, by simp, fun _ h => (h rfl).elim⟩
  have h27 := Lasting.loop h26 rfl (.createGame rfl rfl rfl)
  have h28 := Lasting.loop h27 rfl (.clearUpdates rfl)
  have h29 := Lasting.loop h28 rfl (.clearFinished rfl rfl)
  have h30 := Lasting.loop h29 rfl (.updateGames [(7 : Nat)] rfl (by decide) rfl)
  have h31 := Lasting.loop h30 rfl (.sendSession (7 : Nat) rfl (by decide))
  have h32 := Lasting.loop h31 rfl (.clearMessages rfl)
  have h33 := Lasting.loop h32 rfl (.sendDone rfl)
  have h34 := Lasting.loop h33 rfl (.skipGame (7 : Nat) rfl (by decide) rfl rfl)
  have h35 := Lasting.loop h34 rfl (.finish rfl)
  refine ⟨_, h35, rfl, nofun, ⟨⟨(7 : Nat), (1 : Nat)⟩, ?_⟩, by decide⟩
  simp only [GameServer.processGameUpdates_base, GameServer.connectPlayer, GameServer.store,
    GameServer.createGame, GameServer.called]
  exact List.mem_append_left _ (List.mem_append_left _ (List.mem_append_left _
    (List.mem_append_left _ (List.mem_append_left _ (List.mem_append_right _
      (List.mem_singleton.2 rfl))))))

/-- Bob's login starts a game of a session that is not completed. -/
theorem no_live_game_for_completed_session_login :
    ∃ gs : GameServer natTraits Nat Unit, gs.loop = .updating 0 ∧
      gs.games.lookup 7 = some ⟨0, [.connect 2]⟩ ∧ ¬ Completed gs.base.log 7 := by
  have h0 : ((gameServer natConfig natGame 0).restrict (Faithful natGame)).Reachable
      (GameServer.start 0 : GameServer natTraits Nat Unit) := .init ⟨0, rfl⟩
  have never {gs gs' : GameServer natTraits Nat Unit} {evs : List (Event natTraits)}
      (he : gs.rejected = []) : StartsUnrejected natGame gs evs gs' := by
    intro t cid data todo _ _ _ _
    rw [he]
    exact List.not_mem_nil
  have h1 := h0.step ⟨.run (.run rfl), ⟨by simp, fun _ => id⟩, never rfl⟩
  have h2 := h1.step ⟨.transport (.onMessage (6 : Nat) "bob"), ⟨by simp, fun _ => id⟩, never rfl⟩
  have h3 := h2.step ⟨.worker () (.enter rfl) nofun, ⟨by simp, fun _ => id⟩, never rfl⟩
  have h4 := h3.step ⟨.worker () (.pop rfl) nofun, ⟨by simp, fun _ => id⟩, never rfl⟩
  have h5 := h4.step
    ⟨.worker () (.messageUnbound rfl rfl) nofun, ⟨by simp, fun _ => id⟩, never rfl⟩
  have h6 := h5.step
    ⟨.worker () (.openSession ⟨0, 0⟩ rfl rfl rfl) nofun, ⟨by simp, fun _ => id⟩, never rfl⟩
  have h7 := h6.step ⟨.worker () .setupConnectionId nofun, ⟨by simp, fun _ => id⟩, never rfl⟩
  have h8 := h7.step ⟨.worker () .handleOpen nofun, ⟨by simp, fun _ => id⟩, never rfl⟩
  have h9 := h8.step ⟨.loop rfl (.enter 0 rfl rfl), ⟨by simp, fun _ => id⟩, never rfl⟩
  have h10 := h9.step ⟨.loop rfl (.noGames rfl rfl), ⟨by simp, fun _ => id⟩, never rfl⟩
  have h11 := h10.step ⟨.loop rfl (.pass rfl nofun), ⟨by simp, fun _ => id⟩, never rfl⟩
  have h12 := h11.step ⟨.loop rfl (.relock rfl), ⟨by simp, fun _ => id⟩, never rfl⟩
  have h13 := h12.step
    ⟨.loop rfl (.swapUpdates rfl (by decide)), ⟨by simp, fun _ => id⟩, never rfl⟩
  have h14 := h13.step ⟨.loop rfl (.createGame rfl rfl rfl), ⟨by simp, fun _ => id⟩, never rfl⟩
  have h15 := h14.step ⟨.loop rfl (.clearUpdates rfl), ⟨by simp, fun _ => id⟩, never rfl⟩
  have h16 := h15.step ⟨.loop rfl (.clearFinished rfl rfl), ⟨by simp, fun _ => id⟩, never rfl⟩
  exact ⟨_, rfl, rfl, (no_live_game_for_completed_session h16).2 0 rfl 7 _ rfl⟩

end WebGameServer
