import Homeflow.Lib.Machine
import Homeflow.Web.ServiceWorker

namespace Homeflow.Web

open ServiceWorker

variable {origin : String} {start : OrderedDict String Cache} {worker after : ServiceWorker}
  {trace more : List WorkerEffect} {url : Url} {response : Response}

-- What a cache may hold.
structure Keepable (origin : String) (url : Url) (response : Response) : Prop where
  own : url.origin = origin
  shell : url.household = false
  ok : response.ok = true

-- The network gave it, or another version did.
def Given (start : OrderedDict String Cache) (trace : List WorkerEffect) (url : Url)
    (response : Response) : Prop :=
  (∃ ticket, .gave ticket url response ∈ trace) ∨ .left url response ∈ trace ∨
    ∃ name cache, start.get? name = some cache ∧ cache.get? url = some response

structure Kept (origin : String) (start : OrderedDict String Cache) (trace : List WorkerEffect)
    (url : Url) (response : Response) : Prop extends Keepable origin url response where
  given : Given start trace url response

theorem Kept.grow (h : Kept origin start trace url response) :
    Kept origin start (trace ++ more) url response where
  toKeepable := h.toKeepable
  given := by
    obtain ⟨ticket, hgave⟩ | hleft | hstart := h.given
    · exact .inl ⟨ticket, List.mem_append_left _ hgave⟩
    · exact .inr (.inl (List.mem_append_left _ hleft))
    · exact .inr (.inr hstart)

-- What caches hold for a trace.
def AllKept (origin : String) (start caches : OrderedDict String Cache)
    (trace : List WorkerEffect) : Prop :=
  ∀ name cache url response, caches.get? name = some cache → cache.get? url = some response →
    Kept origin start trace url response

-- Where the answer to a request comes from.
inductive Sourced (origin : String) (start : OrderedDict String Cache)
    (trace : List WorkerEffect) (ticket : Nat) (request : Request) (response : Response) : Prop
  | network (given : .gave (some ticket) request.url response ∈ trace)
  | cache (failed : .failed ticket ∈ trace) (url : Url)
      (address : url = request.url ∨ url = shellUrl origin "index.html")
      (kept : Kept origin start trace url response)

theorem Sourced.grow {ticket : Nat} {request : Request}
    (h : Sourced origin start trace ticket request response) :
    Sourced origin start (trace ++ more) ticket request response := by
  cases h with
  | network given => exact .network (List.mem_append_left _ given)
  | cache failed url address kept =>
      exact .cache (List.mem_append_left _ failed) url address kept.grow

structure Sheltered (origin : String) (start : OrderedDict String Cache)
    (worker : ServiceWorker) : Prop where
  origin_eq : worker.origin = origin
  held : AllKept origin start worker.caches worker.trace
  copied : ∀ ticket copy, worker.copies.get? ticket = some copy →
    Kept origin start worker.trace copy.1 copy.2
  pending : ∀ ticket fetch, worker.fetches.get? ticket = some fetch →
    handles origin fetch.request = true ∧
      (fetch.stage ≠ .network → .failed ticket ∈ worker.trace)
  answered : ∀ ticket request response, .responded ticket request response ∈ worker.trace →
    handles origin request = true ∧
      ∀ found, response = some found → Sourced origin start worker.trace ticket request found

theorem household_of_handles {request : Request} (h : handles origin request = true) :
    request.method = "GET" ∧ request.url.origin = origin ∧ request.url.household = false := by
  unfold handles at h
  split at h
  · cases h
  · next hmethod =>
    split at h
    · cases h
    · next horigin => exact ⟨not_not.mp hmethod, not_not.mp horigin, by simpa using h⟩

theorem shellUrl_household {path : String} (h : path ∈ SHELL) :
    (shellUrl origin path).household = false := by
  have hall : ∀ path ∈ SHELL, (shellUrl "" path).household = false := by decide +kernel
  exact hall path h

section Caches

theorem keys_putIn {name other : String}
    (h : other ∈ (worker.putIn name url response).caches.keys) :
    other = name ∨ other ∈ worker.caches.keys := by
  have hmem := (worker.caches.keys_set_sublist name _).subset h
  rw [List.mem_append, List.mem_singleton] at hmem
  exact hmem.symm

theorem AllKept.putIn {name : String} (h : AllKept origin start worker.caches trace)
    (hkept : Kept origin start trace url response) :
    AllKept origin start (worker.putIn name url response).caches trace := by
  intro other cache asked found hother hfound
  obtain ⟨rfl, rfl⟩ | ⟨-, hold⟩ := OrderedDict.get?_set_eq_some.mp hother
  · obtain ⟨rfl, rfl⟩ | ⟨-, hfound⟩ := OrderedDict.get?_set_eq_some.mp hfound
    · exact hkept
    · cases hheld : worker.caches.get? other with
      | none => simp [hheld] at hfound
      | some cache =>
          rw [hheld, Option.getD_some] at hfound
          exact h other cache asked found hheld hfound
  · exact h other cache asked found hold hfound

theorem AllKept.erase (h : AllKept origin start worker.caches trace) (name : String) :
    AllKept origin start (worker.caches.erase name) trace :=
  fun other cache url response hother hfound =>
    h other cache url response (OrderedDict.get?_erase_eq_some.mp hother).2 hfound

theorem AllKept.addAll {entries : List (Url × Response)}
    (h : AllKept origin start worker.caches trace)
    (hkept : ∀ entry ∈ entries, Kept origin start trace entry.1 entry.2) :
    AllKept origin start
      (entries.foldl (fun worker entry => worker.putIn CACHE entry.1 entry.2) worker).caches
      trace := by
  induction entries generalizing worker with
  | nil => exact h
  | cons entry rest ih =>
      obtain ⟨hfirst, hrest⟩ := List.forall_mem_cons.mp hkept
      exact ih (h.putIn hfirst) hrest

theorem AllKept.grow {caches : OrderedDict String Cache} (h : AllKept origin start caches trace) :
    AllKept origin start caches (trace ++ more) :=
  fun name cache url response hname hfound => (h name cache url response hname hfound).grow

theorem AllKept.lookUp (h : AllKept origin start worker.caches trace)
    (hfound : worker.lookUp url = some response) : Kept origin start trace url response := by
  obtain ⟨⟨name, cache⟩, hmem, hget⟩ := List.exists_of_findSome?_eq_some hfound
  exact h name cache url response ((worker.caches.get?_eq_some_iff name cache).mpr hmem) hget

end Caches

section Step

theorem Sheltered.emit (h : Sheltered origin start worker)
    (hquiet : ∀ ticket request response, .responded ticket request response ∉ more) :
    Sheltered origin start (worker.emit more) := by
  refine ⟨h.origin_eq, h.held.grow, fun ticket copy hcopy => (h.copied ticket copy hcopy).grow,
    fun ticket fetch hfetch => ?_, fun ticket request response hmem => ?_⟩
  · obtain ⟨hhandles, hfailed⟩ := h.pending ticket fetch hfetch
    exact ⟨hhandles, fun hstage => List.mem_append_left _ (hfailed hstage)⟩
  · rcases List.mem_append.mp hmem with hold | hnew
    · obtain ⟨hhandles, hsourced⟩ := h.answered ticket request response hold
      exact ⟨hhandles, fun found hfound => (hsourced found hfound).grow⟩
    · exact absurd hnew (hquiet ticket request response)

theorem Sheltered.respond {ticket : Nat} {request : Request} {answer : Option Response}
    (h : Sheltered origin start worker) (hhandles : handles origin request = true)
    (hsourced : ∀ found, answer = some found →
      Sourced origin start worker.trace ticket request found) :
    Sheltered origin start (worker.respond ticket request answer) := by
  refine ⟨h.origin_eq, h.held.grow, fun ticket copy hcopy => (h.copied ticket copy hcopy).grow,
    fun other fetch hfetch => ?_, fun other asked response hmem => ?_⟩
  · obtain ⟨hpending, hfailed⟩ := h.pending other fetch (OrderedDict.get?_erase_eq_some.mp hfetch).2
    exact ⟨hpending, fun hstage => List.mem_append_left _ (hfailed hstage)⟩
  · rcases List.mem_append.mp hmem with hold | hnew
    · obtain ⟨hbefore, hsource⟩ := h.answered other asked response hold
      exact ⟨hbefore, fun found hfound => (hsource found hfound).grow⟩
    · obtain ⟨rfl, rfl, rfl⟩ := WorkerEffect.responded.inj (List.mem_singleton.mp hnew)
      exact ⟨hhandles, fun found hfound => (hsourced found hfound).grow⟩

theorem Sheltered.fetches {fetches : OrderedDict Nat Fetch} {tickets : Nat}
    (h : Sheltered origin start worker)
    (hpending : ∀ ticket fetch, fetches.get? ticket = some fetch →
      handles origin fetch.request = true ∧
        (fetch.stage ≠ .network → .failed ticket ∈ worker.trace)) :
    Sheltered origin start { worker with fetches, tickets } :=
  ⟨h.origin_eq, h.held, h.copied, hpending, h.answered⟩

theorem foldl_putIn (entries : List (Url × Response)) (worker : ServiceWorker) :
    ∃ caches, entries.foldl (fun worker entry => worker.putIn CACHE entry.1 entry.2) worker =
      { worker with caches } := by
  induction entries generalizing worker with
  | nil => exact ⟨worker.caches, rfl⟩
  | cons entry rest ih =>
      obtain ⟨caches, heq⟩ := ih (worker.putIn CACHE entry.1 entry.2)
      exact ⟨caches, heq⟩

theorem sheltered_shell {responses : List Response} (h : Sheltered origin start worker)
    (hstep : worker.step (.shellAnswered responses) = some after) :
    Sheltered origin start after := by
  simp only [ServiceWorker.step] at hstep
  split at hstep
  · cases hstep
  · let entries := (SHELL.map (shellUrl worker.origin)).zip responses
    let given : List WorkerEffect := entries.map fun entry => .gave none entry.1 entry.2
    have hemitted : Sheltered origin start (worker.emit given) := h.emit (by simp [given])
    split at hstep
    · next hok =>
      have hkept : ∀ entry ∈ entries,
          Kept origin start (worker.trace ++ given) entry.1 entry.2 := by
        intro entry hentry
        obtain ⟨path, hpath, haddress⟩ := List.mem_map.mp (List.of_mem_zip hentry).1
        refine ⟨⟨haddress ▸ h.origin_eq, haddress ▸ shellUrl_household hpath,
          List.all_eq_true.mp hok _ (List.of_mem_zip hentry).2⟩, .inl ⟨none, ?_⟩⟩
        exact List.mem_append_right _ (List.mem_map.mpr ⟨entry, hentry, rfl⟩)
      have hheld := hemitted.held.addAll hkept
      obtain ⟨caches, hadded⟩ := foldl_putIn entries (worker.emit given)
      have hafter : after = { worker.emit given with caches, phase := .installed } := by
        rw [← Option.some.inj hstep, addAll]
        change { List.foldl _ (worker.emit given) entries with phase := Phase.installed } = _
        rw [hadded]
      rw [hadded] at hheld
      rw [hafter]
      exact ⟨hemitted.origin_eq, hheld, hemitted.copied, hemitted.pending, hemitted.answered⟩
    · obtain rfl := Option.some.inj hstep
      exact ⟨hemitted.origin_eq, hemitted.held, hemitted.copied, hemitted.pending,
        hemitted.answered⟩

theorem sheltered_matched {ticket : Nat} {fetch : Fetch} (h : Sheltered origin start worker)
    (hfetch : worker.fetches.get? ticket = some fetch)
    (hstep : worker.matched ticket fetch = some after) : Sheltered origin start after := by
  obtain ⟨hhandles, hfailed⟩ := h.pending ticket fetch hfetch
  unfold ServiceWorker.matched at hstep
  split at hstep
  · cases hstep
  · next hstage =>
    have hbefore := hfailed (hstage ▸ by decide)
    split at hstep
    · next hit hhit =>
      obtain rfl := Option.some.inj hstep
      refine h.respond hhandles fun found hfound => ?_
      obtain rfl := Option.some.inj hfound
      exact .cache hbefore _ (.inl rfl) (h.held.lookUp hhit)
    · obtain rfl := Option.some.inj hstep
      refine h.fetches fun other found hfound => ?_
      obtain ⟨rfl, rfl⟩ | ⟨-, hold⟩ := OrderedDict.get?_set_eq_some.mp hfound
      · exact ⟨hhandles, fun _ => hbefore⟩
      · exact h.pending other found hold
  · next hstage =>
    obtain rfl := Option.some.inj hstep
    refine h.respond hhandles fun found hfound => ?_
    exact .cache (hfailed (hstage ▸ by decide)) _ (.inr (h.origin_eq ▸ rfl)) (h.held.lookUp hfound)

theorem sheltered_network {ticket : Nat} {fetch : Fetch} (h : Sheltered origin start worker)
    (hfetch : worker.fetches.get? ticket = some fetch) :
    Sheltered origin start (worker.networkAnswered ticket fetch.request response) := by
  obtain ⟨hhandles, -⟩ := h.pending ticket fetch hfetch
  have hemitted : Sheltered origin start
      (worker.emit [.gave (some ticket) fetch.request.url response]) := h.emit (by simp)
  have hgave : .gave (some ticket) fetch.request.url response ∈
      worker.trace ++ [.gave (some ticket) fetch.request.url response] :=
    List.mem_append_right _ (List.mem_singleton_self _)
  refine Sheltered.respond ⟨h.origin_eq, hemitted.held, fun other copy hcopy => ?_,
    hemitted.pending, hemitted.answered⟩ hhandles fun found hfound => ?_
  · split at hcopy
    · next hok =>
      obtain ⟨-, rfl⟩ | ⟨-, hold⟩ := OrderedDict.get?_set_eq_some.mp hcopy
      · obtain ⟨-, hown, hshell⟩ := household_of_handles hhandles
        exact ⟨⟨hown, hshell, hok⟩, .inl ⟨some ticket, hgave⟩⟩
      · exact hemitted.copied other copy hold
    · exact hemitted.copied other copy hcopy
  · obtain rfl := Option.some.inj hfound
    exact .network hgave

theorem Sheltered.dropped (h : Sheltered origin start worker) (ticket : Nat) :
    Sheltered origin start { worker with copies := worker.copies.erase ticket } :=
  ⟨h.origin_eq, h.held, fun other copy hcopy =>
    h.copied other copy (OrderedDict.get?_erase_eq_some.mp hcopy).2, h.pending, h.answered⟩

-- What a worker of another version puts in its cache is what this one would.
def Fellow (origin : String) : WorkerLabel → Prop
  | .beside _ url response => Keepable origin url response
  | _ => True

theorem sheltered_step {label : WorkerLabel} (h : Sheltered origin start worker)
    (hfellow : Fellow origin label) (hstep : worker.step label = some after) :
    Sheltered origin start after := by
  cases label with
  | shellAnswered responses => exact sheltered_shell h hstep
  | shellFailed | activate | claimed | interrupted | replaced =>
      simp only [ServiceWorker.step] at hstep
      split at hstep
      · cases hstep
      · obtain rfl := Option.some.inj hstep
        exact ⟨h.origin_eq, h.held, h.copied, h.pending, h.answered⟩
  | deleted name =>
      simp only [ServiceWorker.step] at hstep
      split at hstep
      · cases hstep
      · obtain rfl := Option.some.inj hstep
        exact ⟨h.origin_eq, h.held.erase name, h.copied, h.pending, h.answered⟩
  | removed name =>
      obtain rfl := Option.some.inj hstep
      exact ⟨h.origin_eq, h.held.erase name, h.copied, h.pending, h.answered⟩
  | beside name url response =>
      obtain rfl := Option.some.inj hstep
      have hemitted : Sheltered origin start (worker.emit [.left url response]) :=
        h.emit (by simp)
      have hkept : Kept origin start (worker.trace ++ [.left url response]) url response :=
        ⟨hfellow, .inr (.inl (List.mem_append_right _ (List.mem_singleton_self _)))⟩
      exact ⟨h.origin_eq, hemitted.held.putIn hkept, hemitted.copied, hemitted.pending,
        hemitted.answered⟩
  | fetch request =>
      simp only [ServiceWorker.step] at hstep
      split at hstep
      · cases hstep
      · split at hstep
        · obtain rfl := Option.some.inj hstep
          exact h.emit (by simp)
        · next hhandles =>
          obtain rfl := Option.some.inj hstep
          refine h.fetches fun ticket fetch hfetch => ?_
          obtain ⟨-, rfl⟩ | ⟨-, hold⟩ := OrderedDict.get?_set_eq_some.mp hfetch
          · exact ⟨h.origin_eq ▸ not_not.mp hhandles, fun hstage => absurd rfl hstage⟩
          · exact h.pending ticket fetch hold
  | networkAnswered ticket response =>
      obtain ⟨fetch, hfetch, hrest⟩ := Option.bind_eq_some_iff.mp hstep
      split at hrest
      · cases hrest
      · obtain rfl := Option.some.inj hrest
        exact sheltered_network h hfetch
  | networkFailed ticket =>
      obtain ⟨fetch, hfetch, hrest⟩ := Option.bind_eq_some_iff.mp hstep
      split at hrest
      · cases hrest
      · obtain rfl := Option.some.inj hrest
        have hemitted : Sheltered origin start (worker.emit [.failed ticket]) := h.emit (by simp)
        refine hemitted.fetches fun other found hfound => ?_
        obtain ⟨rfl, rfl⟩ | ⟨-, hold⟩ := OrderedDict.get?_set_eq_some.mp hfound
        · exact ⟨(h.pending _ fetch hfetch).1,
            fun _ => List.mem_append_right _ (List.mem_singleton_self _)⟩
        · exact hemitted.pending other found hold
  | put ticket =>
      obtain ⟨copy, hcopy, rfl⟩ := Option.map_eq_some_iff.mp hstep
      have herased := h.dropped ticket
      exact ⟨h.origin_eq, herased.held.putIn (h.copied ticket copy hcopy), herased.copied,
        h.pending, h.answered⟩
  | putFailed ticket =>
      obtain ⟨copy, -, rfl⟩ := Option.map_eq_some_iff.mp hstep
      exact h.dropped ticket
  | matched ticket =>
      obtain ⟨fetch, hfetch, hmatched⟩ := Option.bind_eq_some_iff.mp hstep
      exact sheltered_matched h hfetch hmatched
  | stopped =>
      simp only [ServiceWorker.step] at hstep
      split at hstep
      · cases hstep
      · obtain rfl := Option.some.inj hstep
        exact ⟨h.origin_eq, h.held, by simp, by simp, h.answered⟩

end Step

section Sweep

-- Only the activation itself decides which caches are left.
def Undisturbed : WorkerLabel → Prop
  | .interrupted | .beside _ _ _ => False
  | _ => True

structure Sweeps (worker : ServiceWorker) : Prop where
  left : ∀ name ∈ worker.caches.keys, name = CACHE ∨ name ∈ worker.stale
  swept : worker.phase = .activated → worker.stale = []

theorem Sweeps.phase (h : Sweeps worker) {phase : Phase} (hphase : phase ≠ .activated) :
    Sweeps { worker with phase } :=
  ⟨h.left, fun hactivated => absurd hactivated hphase⟩

theorem Sweeps.emit (h : Sweeps worker) (effects : List WorkerEffect) :
    Sweeps (worker.emit effects) :=
  ⟨h.left, h.swept⟩

theorem Sweeps.putIn (h : Sweeps worker) : Sweeps (worker.putIn CACHE url response) :=
  ⟨fun name hname => (keys_putIn hname).elim .inl (h.left name), h.swept⟩

theorem Sweeps.addAll (h : Sweeps worker) (responses : List Response) :
    Sweeps (worker.addAll responses) := by
  unfold ServiceWorker.addAll
  generalize (SHELL.map (shellUrl worker.origin)).zip responses = entries
  induction entries generalizing worker with
  | nil => exact h
  | cons entry rest ih => exact ih h.putIn

theorem sweeps_activate (hstep : worker.step .activate = some after) : Sweeps after := by
  simp only [ServiceWorker.step] at hstep
  split at hstep
  · cases hstep
  · obtain rfl := Option.some.inj hstep
    refine ⟨fun name hname => ?_, fun hactivated => by cases hactivated⟩
    by_cases hown : name = CACHE
    · exact .inl hown
    · exact .inr (List.mem_filter.mpr ⟨hname, decide_eq_true hown⟩)

theorem sweeps_step {label : WorkerLabel} (h : Sweeps worker) (halone : Undisturbed label)
    (hstep : worker.step label = some after) : Sweeps after := by
  have herased : ∀ {name other : String}, other ∈ (worker.caches.erase name).keys →
      other ≠ name ∧ (other = CACHE ∨ other ∈ worker.stale) := by
    intro name other hother
    refine ⟨?_, h.left other ((worker.caches.keys_erase_sublist name).subset hother)⟩
    rintro rfl
    exact worker.caches.erase_keys_notMem _ hother
  cases label with
  | interrupted | beside => exact halone.elim
  | activate => exact sweeps_activate hstep
  | shellAnswered responses =>
      simp only [ServiceWorker.step] at hstep
      split at hstep
      · cases hstep
      · split at hstep <;> obtain rfl := Option.some.inj hstep
        · exact ((h.emit _).addAll responses).phase fun hphase => by cases hphase
        · exact ⟨h.left, fun hactivated => by cases hactivated⟩
  | shellFailed | replaced =>
      simp only [ServiceWorker.step] at hstep
      split at hstep
      · cases hstep
      · obtain rfl := Option.some.inj hstep
        exact h.phase (by decide)
  | deleted name =>
      simp only [ServiceWorker.step] at hstep
      split at hstep
      · cases hstep
      · obtain rfl := Option.some.inj hstep
        refine ⟨fun other hother => ?_, fun hactivated => by simp [h.swept hactivated]⟩
        obtain ⟨hne, hleft⟩ := herased hother
        exact hleft.imp_right fun hstale => List.mem_filter.mpr ⟨hstale, decide_eq_true hne⟩
  | removed name =>
      obtain rfl := Option.some.inj hstep
      exact ⟨fun other hother => (herased hother).2, h.swept⟩
  | claimed =>
      simp only [ServiceWorker.step] at hstep
      split at hstep
      · cases hstep
      · next hends =>
        obtain rfl := Option.some.inj hstep
        exact ⟨h.left, fun _ => not_not.mp (not_or.mp hends).2⟩
  | fetch request =>
      simp only [ServiceWorker.step] at hstep
      split at hstep
      · cases hstep
      · split at hstep <;> obtain rfl := Option.some.inj hstep <;> exact ⟨h.left, h.swept⟩
  | networkAnswered ticket response =>
      obtain ⟨fetch, -, hrest⟩ := Option.bind_eq_some_iff.mp hstep
      split at hrest
      · cases hrest
      · obtain rfl := Option.some.inj hrest
        exact ⟨h.left, h.swept⟩
  | networkFailed ticket =>
      obtain ⟨fetch, -, hrest⟩ := Option.bind_eq_some_iff.mp hstep
      split at hrest
      · cases hrest
      · obtain rfl := Option.some.inj hrest
        exact ⟨h.left, h.swept⟩
  | put ticket =>
      obtain ⟨copy, -, rfl⟩ := Option.map_eq_some_iff.mp hstep
      exact Sweeps.putIn ⟨h.left, h.swept⟩
  | putFailed ticket =>
      obtain ⟨copy, -, rfl⟩ := Option.map_eq_some_iff.mp hstep
      exact ⟨h.left, h.swept⟩
  | matched ticket =>
      obtain ⟨fetch, -, hmatched⟩ := Option.bind_eq_some_iff.mp hstep
      unfold ServiceWorker.matched at hmatched
      split at hmatched
      · cases hmatched
      · split at hmatched <;> obtain rfl := Option.some.inj hmatched <;> exact ⟨h.left, h.swept⟩
      · obtain rfl := Option.some.inj hmatched
        exact ⟨h.left, h.swept⟩
  | stopped =>
      simp only [ServiceWorker.step] at hstep
      split at hstep
      · cases hstep
      · obtain rfl := Option.some.inj hstep
        exact ⟨h.left, h.swept⟩

end Sweep

-- Every request of the client goes to the API.
theorem ApiCall.household (segment : Uuid → String) (origin : String) (call : ApiCall) :
    (call.request segment origin).url.household = true := by
  have happended : ∀ path rest : String, "/v1".toList.isPrefixOf path.toList = true →
      "/v1".toList.isPrefixOf (path ++ rest).toList = true := by
    intro path rest hpath
    rw [List.isPrefixOf_iff_prefix] at hpath ⊢
    rw [String.toList_append]
    exact hpath.trans (List.prefix_append _ _)
  have hfixed : ∀ path ∈ ["/v1/me", "/v1/devices", "/v1/activity", "/v1/auth/ws-ticket"],
      "/v1".toList.isPrefixOf path.toList = true := by decide
  cases call with
  | me | devices | activity | websocketTicket =>
      exact Bool.or_eq_true_iff.mpr (.inl (hfixed _ (by simp [ApiCall.request])))
  | submitCommand | schedules | createSchedule =>
      exact Bool.or_eq_true_iff.mpr (.inl (happended _ _ (happended _ _ (by decide))))
  | cancelSchedule => exact Bool.or_eq_true_iff.mpr (.inl (happended _ _ (by decide)))

-- What comes from the gateway is never held and never answered for it; what is answered without
-- the network was once its answer; and an activation that comes to its end, with no other version
-- beside it, leaves the cache of this one alone.
theorem household_state_is_never_cached {labels : List WorkerLabel}
    (hstart : ∀ name cache url response, start.get? name = some cache →
      cache.get? url = some response → Keepable origin url response)
    (hfellow : ∀ label ∈ labels, Fellow origin label)
    (hrun : Machine.run ServiceWorker.step (installed origin start) labels = some worker) :
    AllKept origin start worker.caches worker.trace ∧
      (∀ ticket request answer, .responded ticket request answer ∈ worker.trace →
        request.method = "GET" ∧ request.url.origin = origin ∧ request.url.household = false ∧
          ∀ response, answer = some response →
            Sourced origin start worker.trace ticket request response) ∧
      (∀ segment call ticket answer,
        .responded ticket (ApiCall.request segment origin call) answer ∉ worker.trace) ∧
      (∀ before later, labels = before ++ .activate :: later →
        (∀ label ∈ later, Undisturbed label) → worker.phase = .activated →
          ∀ name ∈ worker.caches.keys, name = CACHE) := by
  have hinitial : Sheltered origin start (installed origin start) :=
    ⟨rfl, fun name cache url response hname hfound =>
      ⟨hstart name cache url response hname hfound, .inr (.inr ⟨name, cache, hname, hfound⟩)⟩,
      by simp [installed], by simp [installed], by simp [installed]⟩
  have h : Sheltered origin start worker :=
    Machine.guarded_invariant hinitial
      (fun _ _ _ hbefore hlabel hstep => sheltered_step hbefore hlabel hstep) hrun
      (Machine.guarded_of_forall hfellow)
  refine ⟨h.held, fun ticket request answer hmem => ?_, fun segment call ticket answer hmem => ?_,
    fun before later hlabels halone hphase name hname => ?_⟩
  · obtain ⟨hhandles, hsourced⟩ := h.answered ticket request answer hmem
    obtain ⟨hmethod, horigin, hshell⟩ := household_of_handles hhandles
    exact ⟨hmethod, horigin, hshell, hsourced⟩
  · have hshell := (household_of_handles (h.answered ticket _ answer hmem).1).2.2
    rw [ApiCall.household] at hshell
    cases hshell
  · rw [hlabels, Machine.run_append] at hrun
    obtain ⟨installed, -, hlater⟩ := Option.bind_eq_some_iff.mp hrun
    obtain ⟨activating, hactivate, hrest⟩ := Option.bind_eq_some_iff.mp hlater
    have hsweeps : Sweeps worker :=
      Machine.guarded_invariant (sweeps_activate hactivate)
        (fun _ _ _ hbefore hlabel hstep => sweeps_step hbefore hlabel hstep) hrest
        (Machine.guarded_of_forall halone)
    refine (hsweeps.left name hname).resolve_right fun hstale => ?_
    rw [hsweeps.swept hphase] at hstale
    exact List.not_mem_nil hstale

-- An update beside the cache of the version before it, which is still at work, and a start
-- without the network.
def oldShell : OrderedDict String Cache :=
  .ofEntries [("homeflow-shell-v8", .ofEntries [(shellUrl "home" "index.html", ⟨true, "old"⟩)])]

def updating : List WorkerLabel :=
  [.shellAnswered (SHELL.map fun path => ⟨true, path⟩),
    .beside "homeflow-shell-v8" (shellUrl "home" "app.css") ⟨true, "old"⟩]

def offlineStart : List WorkerLabel :=
  [.deleted "homeflow-shell-v8", .claimed, .fetch { url := ⟨"home", "/timers", ""⟩ },
    .fetch (ApiCall.request (fun _ => "") "home" .devices), .networkFailed 0, .matched 0,
    .matched 0]

theorem household_state_is_never_cached_offline :
    ∃ worker, Machine.run ServiceWorker.step (installed "home" oldShell)
        (updating ++ .activate :: offlineStart) = some worker ∧
      (∀ name ∈ worker.caches.keys, name = CACHE) ∧
      .passed (ApiCall.request (fun _ => "") "home" .devices) ∈ worker.trace ∧
      Sourced "home" oldShell worker.trace 0 { url := ⟨"home", "/timers", ""⟩ }
        ⟨true, "index.html"⟩ := by
  obtain ⟨worker, hrun, hends⟩ := (Option.any_eq_true _ _).mp
    (show (Machine.run ServiceWorker.step (installed "home" oldShell)
        (updating ++ .activate :: offlineStart)).any
      (fun worker => decide (worker.phase = .activated ∧
        .passed (ApiCall.request (fun _ => "") "home" .devices) ∈ worker.trace ∧
        .responded 0 { url := ⟨"home", "/timers", ""⟩ } (some ⟨true, "index.html"⟩) ∈
          worker.trace)) = true by
      decide +kernel)
  obtain ⟨hphase, hpassed, hresponded⟩ := of_decide_eq_true hends
  have hstart : ∀ name cache url response, oldShell.get? name = some cache →
      cache.get? url = some response → Keepable "home" url response := by
    intro name cache url response hname hfound
    have hentries : ∀ entry ∈ oldShell.entries, ∀ held ∈ entry.2.entries,
        held.1.origin = "home" ∧ held.1.household = false ∧ held.2.ok = true := by
      decide +kernel
    obtain ⟨hown, hshell, hok⟩ := hentries _ ((oldShell.get?_eq_some_iff name cache).mp hname) _
      ((cache.get?_eq_some_iff url response).mp hfound)
    exact ⟨hown, hshell, hok⟩
  have hfellow : ∀ label ∈ updating ++ .activate :: offlineStart, Fellow "home" label := by
    simp only [updating, offlineStart, List.cons_append, List.nil_append, List.forall_mem_cons,
      Fellow, List.not_mem_nil, false_imp_iff, implies_true, true_and, and_true]
    exact ⟨rfl, by decide +kernel, rfl⟩
  obtain ⟨-, hanswered, -, hswept⟩ := household_state_is_never_cached hstart hfellow hrun
  refine ⟨worker, hrun, hswept updating offlineStart rfl ?_ hphase, hpassed,
    (hanswered 0 _ _ hresponded).2.2.2 _ rfl⟩
  simp [offlineStart, Undisturbed]

end Homeflow.Web
