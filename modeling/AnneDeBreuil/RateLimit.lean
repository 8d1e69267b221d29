import AnneDeBreuil.FixedWindow
import AnneDeBreuil.IpDisplay
import AnneDeBreuil.PortalAuth

namespace AnneDeBreuil

/-- One minute, in nanoseconds. -/
def rateWindow : Nat := 60000000000

/-- A fixed-window request counter, one `Bucket` for each key. -/
structure RateLimiter where
  budgetPerWindow : Nat
  buckets : String → Option FixedWindow

def RateLimiter.new (budgetPerWindow : Nat) : RateLimiter := ⟨budgetPerWindow, fun _ => none⟩

def RateLimiter.check (limiter : RateLimiter) (key : String) (now : Nat) : RateLimiter × Bool :=
  let bucket := (limiter.buckets key).getD ⟨now, 0⟩
  let bucket := if rateWindow ≤ now - bucket.start then ⟨now, 0⟩ else bucket
  if limiter.budgetPerWindow ≤ bucket.count then
    ({ limiter with buckets := Function.update limiter.buckets key (some bucket) }, false)
  else
    ({ limiter with buckets := Function.update limiter.buckets key (some { bucket with count := bucket.count + 1 }) }, true)

/-- A call of `check` with the clock reading it takes. -/
abbrev CheckCall := String × Nat

def RateLimiter.checkCall (limiter : RateLimiter) (call : CheckCall) : RateLimiter × Bool := limiter.check call.1 call.2

/-- What the limiter reads of a request: its headers and the peer's address. -/
structure HttpRequest (ν : Type) where
  headers : HeaderMap ν
  connectInfo : Option IpAddr

section

variable {ν : Type} (crates : PortalCrates ν) (tokens : PortalTokens)

def HttpRequest.authenticate (request : HttpRequest ν) : Option AuthContext :=
  (bearerToken crates request.headers).bind (tokens.authenticate crates)

def budgetKey (request : HttpRequest ν) : String :=
  match request.authenticate crates tokens with
  | some ctx => "token:" ++ ctx.tokenId
  | none => "ip:" ++ (request.connectInfo.map IpAddr.display).getD "unknown"

/-- The call that the middleware makes for a request. -/
def enforceCall (request : HttpRequest ν × Nat) : CheckCall := (budgetKey crates tokens request.1, request.2)

end

/-- The replies to a sequence of calls, each with its call. -/
def checked (budget : Nat) (calls : List CheckCall) : List (CheckCall × Bool) :=
  calls.zip (replies RateLimiter.checkCall (.new budget) calls)

/-- The replies that the calls of one key get. -/
def checkedFor (budget : Nat) (key : String) (calls : List CheckCall) : List (CheckCall × Bool) :=
  (checked budget calls).filter (·.1.1 = key)

/-- The allowed calls of a key, in the windows that its bucket counts them in. -/
def allowedHits (budget : Nat) (key : String) (calls : List CheckCall) : List WindowHit :=
  FixedWindow.hits rateWindow budget none ((calls.filter (·.1 = key)).map Prod.snd)

/-- The limiter is a fixed-window counter for each key. -/
theorem check_eq (limiter : RateLimiter) (call : CheckCall) : limiter.checkCall call =
    (⟨limiter.budgetPerWindow, (keyed (FixedWindow.charge rateWindow limiter.budgetPerWindow) limiter.buckets call).1⟩,
      (keyed (FixedWindow.charge rateWindow limiter.budgetPerWindow) limiter.buckets call).2) := by
  have bucket : FixedWindow.current rateWindow call.2 (limiter.buckets call.1) =
      if rateWindow ≤ call.2 - ((limiter.buckets call.1).getD ⟨call.2, 0⟩).start then ⟨call.2, 0⟩
      else (limiter.buckets call.1).getD ⟨call.2, 0⟩ := rfl
  unfold RateLimiter.checkCall RateLimiter.check keyed FixedWindow.charge
  dsimp only
  rw [← bucket]
  split
  next => rfl
  next => rfl

theorem replies_eq (limiter : RateLimiter) (calls : List CheckCall) : replies RateLimiter.checkCall limiter calls =
    replies (keyed (FixedWindow.charge rateWindow limiter.budgetPerWindow)) limiter.buckets calls := by
  induction calls generalizing limiter with
  | nil => rfl
  | cons call calls ih => rw [replies, ih, check_eq, replies]

theorem stateAfter_eq (limiter : RateLimiter) (calls : List CheckCall) : stateAfter RateLimiter.checkCall limiter calls =
    ⟨limiter.budgetPerWindow, stateAfter (keyed (FixedWindow.charge rateWindow limiter.budgetPerWindow)) limiter.buckets calls⟩ := by
  induction calls generalizing limiter with
  | nil => rfl
  | cons call calls ih =>
    have later := ih (limiter.checkCall call).1
    rw [check_eq] at later
    unfold stateAfter at later ⊢
    rw [List.foldl_cons, List.foldl_cons, check_eq, later]

/-- A denied call leaves no trace in the later replies. -/
theorem replies_after_denied {limiter : RateLimiter} {call : CheckCall} (denied : (limiter.checkCall call).2 = false)
    (calls : List CheckCall) : replies RateLimiter.checkCall (limiter.checkCall call).1 calls =
      replies RateLimiter.checkCall limiter calls := by
  rw [check_eq] at denied ⊢
  rw [replies_eq, replies_eq]
  exact FixedWindow.replies_after_denied denied calls

/-- A key's replies are those of its own bucket. -/
theorem checkedFor_own (budget : Nat) (key : String) (calls : List CheckCall) : checkedFor budget key calls =
    (calls.filter (·.1 = key)).zip (replies (alone (FixedWindow.charge rateWindow budget)) none
      ((calls.filter (·.1 = key)).map Prod.snd)) := by
  rw [checkedFor, checked, replies_eq]
  exact replies_own (FixedWindow.charge rateWindow budget) (fun _ => none) key calls

theorem checkedFor_filter (budget : Nat) (key : String) (calls : List CheckCall) :
    checkedFor budget key calls = checked budget (calls.filter (·.1 = key)) := by
  rw [checkedFor, checked, checked, replies_eq, replies_eq]
  exact replies_filter (FixedWindow.charge rateWindow budget) (fun _ => none) key calls

/-- The hits are the allowed calls. -/
theorem allowedHits_times (budget : Nat) (key : String) (calls : List CheckCall) :
    (allowedHits budget key calls).map WindowHit.time =
      ((checkedFor budget key calls).filter Prod.snd).map (fun answered => answered.1.2) := by
  have zipped : ∀ (own : List CheckCall) (oks : List Bool),
      (((own.map Prod.snd).zip oks).filter Prod.snd).map Prod.fst =
        ((own.zip oks).filter Prod.snd).map (fun answered => answered.1.2) := by
    intro own oks
    rw [List.zip_map_left, List.filter_map, List.map_map]
    rfl
  rw [allowedHits, FixedWindow.hits_times, zipped, checkedFor_own]

/-- At most twice the budget of a key's calls are allowed in a window's length. -/
theorem allowed_span_le {budget : Nat} {key : String} {calls : List CheckCall}
    (windowed : Windowed rateWindow budget (allowedHits budget key calls)) (t : Nat) :
    (checkedFor budget key calls).countP
      (fun answered => answered.2 && (t ≤ answered.1.2 && answered.1.2 < t + rateWindow)) ≤ 2 * budget := by
  have counted : (checkedFor budget key calls).countP
      (fun answered => answered.2 && (t ≤ answered.1.2 && answered.1.2 < t + rateWindow)) =
      (((checkedFor budget key calls).filter Prod.snd).map (fun answered => answered.1.2)).countP
        (fun time => t ≤ time && time < t + rateWindow) := by
    rw [List.countP_map, List.countP_filter]
    apply List.countP_congr
    intro answered _
    simp [and_comm]
  rw [counted, ← allowedHits_times, List.countP_map]
  refine Nat.le_trans (Nat.le_of_eq (List.countP_congr fun hit _ => ?_)) (windowed.span_le t)
  simp

theorem filter_enforceCall {ν : Type} (crates : PortalCrates ν) (tokens : PortalTokens) (id : String)
    (requests : List (HttpRequest ν × Nat)) :
    (requests.map (enforceCall crates tokens)).filter (·.1 = "token:" ++ id) =
      ((requests.filter fun request => (request.1.authenticate crates tokens).isSome).map (enforceCall crates tokens)).filter
        (·.1 = "token:" ++ id) := by
  rw [List.filter_map, List.filter_map, List.filter_filter]
  congr 1
  apply List.filter_congr
  intro request _
  cases hauth : request.1.authenticate crates tokens with
  | some ctx => simp
  | none =>
    have key : (enforceCall crates tokens request).1 = "ip:" ++ (request.1.connectInfo.map IpAddr.display).getD "unknown" := by
      rw [enforceCall, budgetKey, hauth]
    have other : ∀ rest, "ip:" ++ rest ≠ "token:" ++ id := by
      intro rest h
      have texts := congrArg String.toList h
      rw [String.toList_append, String.toList_append] at texts
      cases texts
    simp [key, other]

/-- A fixed budget for each key: what it allows in a window and in a span of a
window's length, the counts it keeps, and whom its replies depend on. -/
theorem rateLimiter_bounds {ν : Type} (crates : PortalCrates ν) (tokens : PortalTokens) (budget : Nat) :
    (∀ key (calls : List CheckCall), calls.Pairwise (fun call later => call.2 ≤ later.2) →
      Windowed rateWindow budget (allowedHits budget key calls) ∧
      (allowedHits budget key calls).map WindowHit.time =
        ((checkedFor budget key calls).filter Prod.snd).map (fun answered => answered.1.2) ∧
      ∀ t, (checkedFor budget key calls).countP
        (fun answered => answered.2 && (t ≤ answered.1.2 && answered.1.2 < t + rateWindow)) ≤ 2 * budget) ∧
    (∀ (calls : List CheckCall) key bucket,
      (stateAfter RateLimiter.checkCall (.new budget) calls).buckets key = some bucket → bucket.count ≤ budget) ∧
    (∀ (before after : List CheckCall) call,
      ((stateAfter RateLimiter.checkCall (.new budget) before).checkCall call).2 = false →
      ∃ later, replies RateLimiter.checkCall (.new budget) (before ++ call :: after) =
          replies RateLimiter.checkCall (.new budget) before ++ false :: later ∧
        replies RateLimiter.checkCall (.new budget) (before ++ after) =
          replies RateLimiter.checkCall (.new budget) before ++ later) ∧
    (∀ key (calls : List CheckCall), checkedFor budget key calls = checked budget (calls.filter (·.1 = key))) ∧
    ∀ id (requests : List (HttpRequest ν × Nat)),
      checkedFor budget ("token:" ++ id) (requests.map (enforceCall crates tokens)) =
        checkedFor budget ("token:" ++ id)
          ((requests.filter fun request => (request.1.authenticate crates tokens).isSome).map (enforceCall crates tokens)) := by
  refine ⟨?_, ?_, ?_, checkedFor_filter budget, ?_⟩
  · intro key calls sorted
    have own : ((calls.filter (·.1 = key)).map Prod.snd).Pairwise (· ≤ ·) := by
      rw [List.pairwise_map]
      exact sorted.filter _
    have windowed : Windowed rateWindow budget (allowedHits budget key calls) :=
      FixedWindow.windowed_hits (by decide) own
    exact ⟨windowed, allowedHits_times budget key calls, allowed_span_le windowed⟩
  · intro calls key bucket h
    rw [stateAfter_eq] at h
    exact FixedWindow.keyed_count_le nofun calls h
  · intro before after call denied
    refine ⟨replies RateLimiter.checkCall (stateAfter RateLimiter.checkCall (.new budget) before) after, ?_, replies_append ..⟩
    rw [replies_append, replies, denied, replies_after_denied denied]
  · intro id requests
    rw [checkedFor_filter, checkedFor_filter, filter_enforceCall]

/-- A burst across a window's end: three calls allowed in one second and a
nanosecond, with a budget of two. -/
theorem rateLimiter_bounds_burst :
    (checkedFor 2 "ip:unknown" [("ip:unknown", 0), ("ip:unknown", 59000000000), ("ip:unknown", 60000000000),
      ("ip:unknown", 60000000000)]).countP (fun answered => answered.2 &&
        (59000000000 ≤ answered.1.2 && answered.1.2 < 59000000000 + rateWindow)) = 3 ∧
    (checkedFor 2 "ip:unknown" [("ip:unknown", 0), ("ip:unknown", 59000000000), ("ip:unknown", 60000000000),
      ("ip:unknown", 60000000000)]).countP (fun answered => answered.2 &&
        (59000000000 ≤ answered.1.2 && answered.1.2 < 59000000000 + rateWindow)) ≤ 2 * 2 :=
  ⟨by decide, ((rateLimiter_bounds (⟨fun _ => ⟨List.replicate 32 0, rfl⟩, fun _ => none, fun _ => none⟩ : PortalCrates Unit)
    ⟨[]⟩ 2).1 "ip:unknown" _ (by decide)).2.2 59000000000⟩

end AnneDeBreuil
