import H2ts.Server.Echo

/-!
# The two handshakes

The Rust server reads the first value of a field and only visible ASCII.  The Go server
reads all values, compares runes under Unicode case folding, and takes an empty key or an
empty origin for a missing one.  The tokens that the Rust server sees are the first of those
that the Go server sees (`offeredProtocols_prefix`).

`sameDecision_iff` says on which requests this makes no difference.
-/

namespace H2ts

open Runes Utf8

/-- What becomes of a handshake. -/
inductive Outcome where
  | reject (status : Nat)
  /-- The subprotocol that is echoed, if any. -/
  | accept (protocol : Option Bytes)
deriving DecidableEq, Repr

def Server.outcome : Except WebSocketError (Option Bytes) → Outcome
  | .error err => .reject err.status
  | .ok protocol => .accept protocol

def Go.outcome : Except HandshakeError (Option Bytes) → Outcome
  | .error err => .reject err.status
  | .ok protocol => .accept protocol

/-- The options of the two servers say the same.  In Go the empty string declines. -/
structure Matching (select : Select) (options : Server.AcceptOptions) (opts : Go.AcceptOptions) :
    Prop where
  select : ∀ offered, Go.selection opts.select offered = (select offered).getD []
  implicit : opts.allowImplicitCodec = options.allowImplicitCodec
  origins : opts.allowedOrigins = options.allowedOrigins

def SameDecision (F : Folding) (request : Headers) (select : Select)
    (options : Server.AcceptOptions) (opts : Go.AcceptOptions) : Prop :=
  Server.outcome (Server.acceptWithOptions request select options) =
    Go.outcome (Go.acceptWithOptions F true request opts)

/-! ## Where the two may part -/

/-- The first values of the two fields say that this is an upgrade. -/
def Server.listsUpgrade (request : Headers) : Bool :=
  headerLists request "upgrade" "websocket" && headerLists request "connection" "upgrade"

/-- Some values of the two fields say that this is an upgrade. -/
def Go.listsUpgrade (F : Folding) (request : Headers) : Bool :=
  headerListContains F request "Upgrade" "websocket" &&
    headerListContains F request "Connection" "upgrade"

section

variable (F : Folding)

/-- The key of an upgrade is not empty, and what lists an upgrade with a key does so in the
first values, in visible ASCII. -/
def SameUpgrade (request : Headers) : Prop :=
  (Server.listsUpgrade request = true → Server.get request "sec-websocket-key" ≠ some []) ∧
    (Go.listsUpgrade F request = true → Go.get request "Sec-WebSocket-Key" ≠ [] →
      Server.listsUpgrade request = true)

/-- An empty origin is not in the allowlist, and an origin that is there under Unicode case
folding is visible ASCII and is there under ASCII case folding. -/
def SameOrigin (request : Headers) (allowed : List Bytes) : Prop :=
  ∀ origin, Server.get request "origin" = some origin →
    (origin = [] → [] ∉ allowed) ∧
      (origin ≠ [] → Go.containsFold F allowed origin = true →
        Server.Visible origin ∧ (allowed.any fun a => eqIgnoreAsciiCase a origin) = true)

/-- The selector picks one of the tokens. -/
def Server.Picks (offered : List Bytes) (select : Select) (s : Bytes) : Prop :=
  select offered = some s ∧ (offered.any fun o => eqIgnoreAsciiCase o s) = true

def Go.Picks (offered : List Bytes) (select : Select) (s : Bytes) : Prop :=
  select offered = some s ∧ s ≠ [] ∧ containsFold F offered s = true

/-- The default subprotocol in ASCII and in Unicode case folding. -/
def Server.isDefault (p : Bytes) : Bool := eqIgnoreAsciiCase p DEFAULT_SUBPROTOCOL

def Go.isDefault (p : Bytes) : Bool := equalFold F p DEFAULT_SUBPROTOCOL

/-- Without a pick a server echoes `p`: the first default, or if there is none and it may, the
first token. -/
def FallsBack (isDefault : Bytes → Bool) (implicit : Bool) (offered : List Bytes) (p : Bytes) : Prop :=
  offered.find? isDefault = some p ∨
    offered.find? isDefault = none ∧ implicit = true ∧ offered.head? = some p

/-- The tokens of the first value and those of all values lead to the same subprotocol. -/
inductive SameProtocol (select : Select) (implicit : Bool) (first all : List Bytes) : Prop where
  /-- The selector picks the same from both. -/
  | picked (s : Bytes) (here : Server.Picks first select s) (there : Go.Picks F all select s)
  /-- It picks from the first tokens only, what the others fall back to. -/
  | here (s : Bytes) (here : Server.Picks first select s) (there : ∀ t, ¬ Go.Picks F all select t)
      (falls : FallsBack (Go.isDefault F) implicit all s)
  /-- It picks from all tokens only, what the first ones fall back to. -/
  | there (s : Bytes) (here : ∀ t, ¬ Server.Picks first select t) (there : Go.Picks F all select s)
      (falls : FallsBack Server.isDefault implicit first s)
  /-- It picks from neither, and the default is among the first tokens or nowhere; if a token
  is then taken unseen, the first value has one. -/
  | declined (here : ∀ t, ¬ Server.Picks first select t) (there : ∀ t, ¬ Go.Picks F all select t)
      (falls : (∃ p ∈ first, Server.isDefault p = true) ∨
        (∀ p ∈ all, Go.isDefault F p = false) ∧ (implicit = true → first = [] → all = []))

/-- The two servers agree on whether this is an upgrade; if it is, on the origin; and if it
may go on, on the subprotocol. -/
def Unmistakable (request : Headers) (select : Select) (options : Server.AcceptOptions) : Prop :=
  SameUpgrade F request ∧ (Server.isUpgradeRequest request = true →
    (∀ allowed, options.allowedOrigins = some allowed → SameOrigin F request allowed) ∧
      (Server.originAllowed request options.allowedOrigins = true →
        SameProtocol F select options.allowImplicitCodec (Server.offeredProtocols request)
          (Go.offeredProtocols request)))

end

/-! ## The two ways to read a field -/

variable {F : Folding} {request : Headers}

theorem values_congr {name name' : String}
    (same : (octets name).map toAsciiLowercase = (octets name').map toAsciiLowercase)
    (headers : Headers) : headers.values name = headers.values name' := by
  unfold Headers.values eqIgnoreAsciiCase
  rw [same]

theorem values_upgrade : request.values "Upgrade" = request.values "upgrade" :=
  values_congr (by decide +kernel) request

theorem values_connection : request.values "Connection" = request.values "connection" :=
  values_congr (by decide +kernel) request

theorem values_key : request.values "Sec-WebSocket-Key" = request.values "sec-websocket-key" :=
  values_congr (by decide +kernel) request

theorem values_protocol :
    request.values "Sec-WebSocket-Protocol" = request.values "sec-websocket-protocol" :=
  values_congr (by decide +kernel) request

theorem values_origin : request.values "Origin" = request.values "origin" :=
  values_congr (by decide +kernel) request

/-- What the Rust server finds in the first value, the Go server finds too. -/
theorem headerListContains_of_headerLists {header header' needle : String}
    (names : request.values header' = request.values header) (ascii : IsAscii (octets needle))
    (lists : Server.headerLists request header needle = true) :
    Go.headerListContains F request header' needle = true := by
  unfold Server.headerLists at lists
  split at lists
  · rename_i list found
    obtain ⟨value, first, str⟩ := Option.bind_eq_some_iff.mp found
    obtain ⟨visible, rfl⟩ := Server.toStr_eq_some_iff.mp str
    obtain ⟨tok, part, same⟩ := List.any_eq_true.mp lists
    have small := (visible.part part).isAscii
    unfold Go.headerListContains
    rw [names]
    refine List.any_eq_true.mpr ⟨list, List.mem_of_head? first, List.any_eq_true.mpr ⟨tok, part, ?_⟩⟩
    rw [trimSpace_ascii small, equalFold_ascii F small.trim ascii]
    exact same
  · cases lists

theorem listsUpgrade_of_first (lists : Server.listsUpgrade request = true) :
    Go.listsUpgrade F request = true := by
  obtain ⟨upgrade, connection⟩ := Bool.and_eq_true_iff.mp lists
  refine Bool.and_eq_true_iff.mpr ⟨?_, ?_⟩
  · exact headerListContains_of_headerLists values_upgrade (by decide +kernel) upgrade
  · exact headerListContains_of_headerLists values_connection (by decide +kernel) connection

theorem get_eq {header header' : String} (names : request.values header' = request.values header) :
    Go.get request header' = (Server.get request header).getD [] := by
  unfold Go.get Server.get
  rw [names]
  cases request.values header <;> rfl

/-! ## Stage by stage -/

theorem sameUpgrade_iff :
    SameUpgrade F request ↔ Server.isUpgradeRequest request = Go.isUpgradeRequest F request := by
  have here : Server.isUpgradeRequest request =
      (Server.listsUpgrade request && (Server.get request "sec-websocket-key").isSome) := rfl
  have there : Go.isUpgradeRequest F request =
      (Go.listsUpgrade F request && Go.get request "Sec-WebSocket-Key" != []) := rfl
  have lists : Server.listsUpgrade request = true → Go.listsUpgrade F request = true :=
    listsUpgrade_of_first
  rw [here, there, SameUpgrade, get_eq values_key]
  cases Server.get request "sec-websocket-key" with
  | none => simp
  | some key =>
      cases key with
      | nil => simp
      | cons b key =>
          cases first : Server.listsUpgrade request with
          | false => simp
          | true => simp [lists first]

theorem any_eqIgnoreAsciiCase_nil {allowed : List Bytes} :
    (allowed.any fun a => eqIgnoreAsciiCase a []) = true ↔ [] ∈ allowed := by
  rw [List.any_eq_true]
  constructor
  · rintro ⟨a, mem, same⟩
    rw [eqIgnoreAsciiCase_iff, List.map_nil, List.map_eq_nil_iff] at same
    rwa [same] at mem
  · exact fun mem => ⟨[], mem, rfl⟩

/-- A match of visible text in ASCII case folding is a match in Unicode case folding. -/
theorem containsFold_of_any {list : List Bytes} {s : Bytes} (ascii : IsAscii s)
    (near : (list.any fun a => eqIgnoreAsciiCase a s) = true) : Go.containsFold F list s = true := by
  obtain ⟨a, mem, same⟩ := List.any_eq_true.mp near
  have small : IsAscii a := ascii.of_eqIgnoreAsciiCase (by
    rw [eqIgnoreAsciiCase_iff] at same ⊢
    exact same.symm)
  refine List.any_eq_true.mpr ⟨a, mem, ?_⟩
  rw [equalFold_ascii F small ascii]
  exact same

theorem sameOrigin_iff {allowed : List Bytes} : SameOrigin F request allowed ↔
    Server.originAllowed request (some allowed) = Go.originAllowed F request (some allowed) := by
  have there : Go.originAllowed F request (some allowed) = (Go.get request "Origin" != [] &&
      Go.containsFold F allowed (Go.get request "Origin")) := rfl
  rw [there, get_eq values_origin, SameOrigin]
  unfold Server.originAllowed
  cases Server.get request "origin" with
  | none => simp
  | some origin =>
      simp only [Option.some.injEq, forall_eq', Option.getD_some, Option.bind_some]
      cases origin with
      | nil =>
          have empty : Server.toStr [] = some [] := rfl
          have absent : ((allowed.any fun a => eqIgnoreAsciiCase a []) = false) ↔ [] ∉ allowed := by
            rw [← any_eqIgnoreAsciiCase_nil, Bool.not_eq_true]
          simp [empty, absent]
      | cons b origin =>
          have cons : (b :: origin != []) = true := rfl
          have near : IsAscii (b :: origin) →
              (allowed.any fun a => eqIgnoreAsciiCase a (b :: origin)) = true →
                Go.containsFold F allowed (b :: origin) = true := containsFold_of_any
          cases str : Server.toStr (b :: origin) with
          | none =>
              have hidden : ¬ Server.Visible (b :: origin) := by
                intro visible
                rw [Server.toStr_eq_some_iff.mpr ⟨visible, rfl⟩] at str
                cases str
              simp [cons, hidden]
          | some o =>
              obtain ⟨visible, rfl⟩ := Server.toStr_eq_some_iff.mp str
              simp only [cons, visible, Bool.true_and, true_and]
              cases found : allowed.any fun a => eqIgnoreAsciiCase a (b :: origin) with
              | false => simp
              | true => simp [near visible.isAscii found]

/-- The tokens of the first value come first. -/
theorem offeredProtocols_prefix : Server.offeredProtocols request <+: Go.offeredProtocols request := by
  unfold Server.offeredProtocols Go.offeredProtocols Server.get
  rw [values_protocol]
  cases request.values "sec-websocket-protocol" with
  | nil => exact List.prefix_rfl
  | cons value values =>
      rw [List.head?_cons, Option.bind_some, List.flatMap_cons]
      split
      · rename_i list str
        obtain ⟨visible, rfl⟩ := Server.toStr_eq_some_iff.mp str
        have same : (splitComma list).map trimSpace = (splitComma list).map trim :=
          List.map_congr_left fun tok part => trimSpace_ascii (visible.part part).isAscii
        have tokens : (((splitComma list).map trimSpace).filter fun tok => tok != []) =
            ((splitComma list).map trim).filter fun s => !s.isEmpty := by
          rw [same]
          refine List.filter_congr fun tok _ => ?_
          cases tok <;> rfl
        rw [tokens]
        exact List.prefix_append _ _
      · exact List.nil_prefix

/-! ## The subprotocol -/

section

variable {first all : List Bytes} {select : Select} {implicit : Bool}

/-- What becomes of the tokens when the selector declines. -/
def fallback (isDefault : Bytes → Bool) (implicit : Bool) (offered : List Bytes) : Outcome :=
  match offered.find? isDefault with
  | some p => .accept (some p)
  | none => if implicit then .accept offered.head? else .reject 400

theorem fallback_eq_accept_iff {isDefault : Bytes → Bool} {offered : List Bytes} {p : Bytes} :
    fallback isDefault implicit offered = .accept (some p) ↔
      FallsBack isDefault implicit offered p := by
  unfold fallback FallsBack
  cases offered.find? isDefault with
  | some q => simp
  | none => cases implicit <;> simp

/-- What the Go server makes of the tokens. -/
def Go.settle (result : Bytes × Bool × Bool) : Outcome :=
  if result.2.2 then .accept (if result.2.1 then some result.1 else none) else .reject 400

theorem Go.settle_picked {sel : Option (List Bytes → Bytes)} {s : Bytes}
    (agrees : ∀ offered, selection sel offered = (select offered).getD [])
    (picks : Picks F all select s) : settle (negotiate F all sel implicit) = .accept (some s) := by
  obtain ⟨answer, some, near⟩ := picks
  have same : selection sel all = s := by rw [agrees, answer, Option.getD_some]
  simp [negotiate, same, some, near, settle]

theorem Go.settle_declined {sel : Option (List Bytes → Bytes)}
    (agrees : ∀ offered, selection sel offered = (select offered).getD [])
    (declines : ∀ t, ¬ Picks F all select t) :
    settle (negotiate F all sel implicit) = fallback (isDefault F) implicit all := by
  have skipped : (selection sel all != [] && containsFold F all (selection sel all)) = false := by
    rw [agrees]
    cases answer : select all with
    | none => rfl
    | some s =>
        rw [Option.getD_some, ← Bool.not_eq_true, Bool.and_eq_true, bne_iff_ne]
        rintro ⟨some, near⟩
        exact declines s ⟨answer, some, near⟩
  have default : (fun p => equalFold F p DEFAULT_SUBPROTOCOL) = isDefault F := rfl
  unfold negotiate fallback
  rw [skipped, if_neg Bool.false_ne_true, default]
  cases all.find? (isDefault F) with
  | some p => rfl
  | none =>
      cases implicit with
      | false => rfl
      | true => cases all <;> rfl

theorem Server.settle_picked {s : Bytes} (visible : ∀ t ∈ first, Visible t)
    (picks : Picks first select s) :
    outcome (respond (decision first select implicit)) = .accept (some s) := by
  obtain ⟨answer, near⟩ := picks
  obtain ⟨o, mem, same⟩ := List.any_eq_true.mp near
  have fine := ((visible o mem).respelled same).fromStr
  rw [decision_of_picked answer near, respond, Option.bind_some, fine, outcome]

theorem Server.settle_declined (visible : ∀ t ∈ first, Visible t)
    (declines : ∀ t, ¬ Picks first select t) :
    outcome (respond (decision first select implicit)) = fallback isDefault implicit first := by
  have falls : decision first select implicit = fallbackSubprotocol first implicit := by
    unfold decision
    split
    · rename_i s answer
      exact if_neg fun near => declines s ⟨answer, near⟩
    · rfl
  have default : (fun p => eqIgnoreAsciiCase p DEFAULT_SUBPROTOCOL) = isDefault := rfl
  rw [falls]
  unfold fallbackSubprotocol fallback
  rw [default]
  cases found : first.find? isDefault with
  | some p =>
      have fine := (visible p (List.mem_of_find?_eq_some found)).fromStr
      simp [respond, outcome, fine]
  | none =>
      cases implicit with
      | false => rfl
      | true =>
          cases first with
          | nil => rfl
          | cons p first => simp [respond, outcome, (visible p (.head _)).fromStr]

/-- Among visible tokens the two know the same default. -/
theorem isDefault_eq {p : Bytes} (visible : Server.Visible p) :
    Go.isDefault F p = Server.isDefault p :=
  equalFold_ascii F visible.isAscii (by decide +kernel)

/-- Without a pick the servers agree if the default is among the first tokens or nowhere. -/
theorem fallback_eq_iff (visible : ∀ t ∈ first, Server.Visible t) (start : first <+: all) :
    fallback Server.isDefault implicit first = fallback (Go.isDefault F) implicit all ↔
      (∃ p ∈ first, Server.isDefault p = true) ∨
        (∀ p ∈ all, Go.isDefault F p = false) ∧ (implicit = true → first = [] → all = []) := by
  obtain ⟨more, rfl⟩ := start
  have same : first.find? (Go.isDefault F) = first.find? Server.isDefault :=
    List.find?_congr fun p mem => isDefault_eq (visible p mem)
  unfold fallback
  rw [List.find?_append, same]
  cases found : first.find? Server.isDefault with
  | some p =>
      have mem := List.mem_of_find?_eq_some found
      have default := List.find?_some found
      exact iff_of_true rfl (.inl ⟨p, mem, default⟩)
  | none =>
      have absent : ∀ p ∈ first, Server.isDefault p = false := by
        simpa using List.find?_eq_none.mp found
      rw [Option.none_or]
      cases later : more.find? (Go.isDefault F) with
      | some p =>
          -- the default comes too late for the Rust server, and is not its first token
          have mem := List.mem_of_find?_eq_some later
          have default := List.find?_some later
          refine iff_of_false ?_ ?_
          · cases implicit with
            | false => simp
            | true =>
                simp only [if_true, Outcome.accept.injEq]
                intro head
                have first' := List.mem_of_head? head
                rw [isDefault_eq (visible p first'), absent p first'] at default
                cases default
          · rintro (⟨q, mem', default'⟩ | ⟨nowhere, -⟩)
            · rw [absent q mem'] at default'
              cases default'
            · rw [nowhere p (List.mem_append_right _ mem)] at default
              cases default
      | none =>
          have nowhere : ∀ p ∈ first ++ more, Go.isDefault F p = false := by
            intro p mem
            rcases List.mem_append.mp mem with mem | mem
            · rw [isDefault_eq (visible p mem)]
              exact absent p mem
            · simpa using List.find?_eq_none.mp later p mem
          have none : ¬ ∃ p ∈ first, Server.isDefault p = true := by
            rintro ⟨p, mem, default⟩
            rw [absent p mem] at default
            cases default
          rw [or_iff_right none, and_iff_right nowhere]
          cases implicit with
          | false => simp
          | true =>
              cases first with
              | nil => cases more <;> simp
              | cons p first => simp

/-- The tokens lead to the same subprotocol if and only if they do so in one of the four
ways. -/
theorem sameProtocol_iff {sel : Option (List Bytes → Bytes)}
    (agrees : ∀ offered, Go.selection sel offered = (select offered).getD [])
    (visible : ∀ t ∈ first, Server.Visible t) (start : first <+: all) :
    SameProtocol F select implicit first all ↔
      Server.outcome (Server.respond (Server.decision first select implicit)) =
        Go.settle (Go.negotiate F all sel implicit) := by
  by_cases here : ∃ s, Server.Picks first select s
  · obtain ⟨s, here⟩ := here
    rw [Server.settle_picked visible here]
    by_cases there : ∃ t, Go.Picks F all select t
    · obtain ⟨t, there⟩ := there
      rw [Go.settle_picked agrees there]
      constructor
      · rintro (⟨s', here', there'⟩ | ⟨s', here', none, -⟩ | ⟨s', none, there', -⟩ | ⟨none, -, -⟩)
        · have first' : s = s' := Option.some.inj (here.1.symm.trans here'.1)
          have all' : t = s' := Option.some.inj (there.1.symm.trans there'.1)
          rw [first', all']
        · exact absurd there (none t)
        · exact absurd here (none s)
        · exact absurd here (none s)
      · intro same
        cases same
        exact .picked s here there
    · have none : ∀ t, ¬ Go.Picks F all select t := fun t picks => there ⟨t, picks⟩
      rw [Go.settle_declined agrees none, eq_comm, fallback_eq_accept_iff]
      constructor
      · rintro (⟨s', -, there'⟩ | ⟨s', here', -, falls⟩ | ⟨s', -, there', -⟩ | ⟨none', -, -⟩)
        · exact absurd there' (none s')
        · rwa [Option.some.inj (here.1.symm.trans here'.1)]
        · exact absurd there' (none s')
        · exact absurd here (none' s)
      · exact .here s here none
  · have none : ∀ t, ¬ Server.Picks first select t := fun t picks => here ⟨t, picks⟩
    rw [Server.settle_declined visible none]
    by_cases there : ∃ t, Go.Picks F all select t
    · obtain ⟨t, there⟩ := there
      rw [Go.settle_picked agrees there, fallback_eq_accept_iff]
      constructor
      · rintro (⟨s', here', -⟩ | ⟨s', here', -, -⟩ | ⟨s', -, there', falls⟩ | ⟨-, none', -⟩)
        · exact absurd here' (none s')
        · exact absurd here' (none s')
        · rwa [Option.some.inj (there.1.symm.trans there'.1)]
        · exact absurd there (none' t)
      · exact .there t none there
    · have none' : ∀ t, ¬ Go.Picks F all select t := fun t picks => there ⟨t, picks⟩
      rw [Go.settle_declined agrees none', fallback_eq_iff visible start]
      constructor
      · rintro (⟨s', here', -⟩ | ⟨s', here', -, -⟩ | ⟨s', -, there', -⟩ | ⟨-, -, falls⟩)
        · exact absurd here' (none s')
        · exact absurd here' (none s')
        · exact absurd there' (none' s')
        · exact falls
      · exact .declined none none'

end

/-! ## The decision -/

theorem Server.outcome_accept (request : Headers) (select : Select) (options : AcceptOptions) :
    outcome (acceptWithOptions request select options) =
      if isUpgradeRequest request then
        if originAllowed request options.allowedOrigins then
          outcome (respond (decision (offeredProtocols request) select options.allowImplicitCodec))
        else .reject 403
      else .reject 426 := by
  unfold acceptWithOptions
  cases isUpgradeRequest request with
  | false => rfl
  | true => cases originAllowed request options.allowedOrigins <;> rfl

theorem Go.outcome_accept (F : Folding) (request : Headers) (opts : AcceptOptions) :
    outcome (acceptWithOptions F true request opts) =
      if isUpgradeRequest F request then
        if originAllowed F request opts.allowedOrigins then
          settle (negotiate F (offeredProtocols request) opts.select opts.allowImplicitCodec)
        else .reject 403
      else .reject 426 := by
  unfold acceptWithOptions
  cases isUpgradeRequest F request with
  | false => rfl
  | true =>
      cases originAllowed F request opts.allowedOrigins with
      | false => rfl
      | true =>
          rcases negotiate F (offeredProtocols request) opts.select opts.allowImplicitCodec with
            ⟨chosen, hasChosen, accept⟩
          cases accept <;> rfl

/-- It is neither of the rejections that come before the subprotocols. -/
def Outcome.Late (o : Outcome) : Prop := o ≠ .reject 426 ∧ o ≠ .reject 403

theorem Server.late_respond (d : Fallback) : (outcome (respond d)).Late := by
  cases d with
  | accept chosen => exact ⟨Outcome.noConfusion, Outcome.noConfusion⟩
  | reject => exact ⟨by decide, by decide⟩

theorem Go.late_settle (result : Bytes × Bool × Bool) : (settle result).Late := by
  unfold settle
  split
  · exact ⟨Outcome.noConfusion, Outcome.noConfusion⟩
  · exact ⟨by decide, by decide⟩

/-- Two handshakes of three stages have the same outcome if and only if they agree on each
stage that is reached. -/
theorem stages_eq_iff {upgrade upgrade' origin origin' : Bool} {o o' : Outcome} (late : o.Late)
    (late' : o'.Late) :
    ((if upgrade then if origin then o else .reject 403 else .reject 426) =
        if upgrade' then if origin' then o' else .reject 403 else .reject 426) ↔
      upgrade = upgrade' ∧ (upgrade = true → origin = origin' ∧ (origin = true → o = o')) := by
  cases upgrade with
  | false =>
      cases upgrade' with
      | false => simp
      | true => cases origin' <;> simp [late'.1.symm]
  | true =>
      cases upgrade' with
      | false => cases origin <;> simp [late.1]
      | true => cases origin <;> cases origin' <;> simp [late.2, late'.2.symm]

theorem sameOrigins_iff {origins : Option (List Bytes)} :
    (∀ allowed, origins = some allowed → SameOrigin F request allowed) ↔
      Server.originAllowed request origins = Go.originAllowed F request origins := by
  cases origins with
  | none => simp [Server.originAllowed, Go.originAllowed]
  | some allowed =>
      rw [← sameOrigin_iff]
      simp

/-- The two servers reach the same outcome if and only if no stage of the handshake is one at
which they part. -/
theorem sameDecision_iff (F : Folding) (request : Headers) (select : Select)
    (options : Server.AcceptOptions) (opts : Go.AcceptOptions) (agree : Matching select options opts) :
    SameDecision F request select options opts ↔ Unmistakable F request select options := by
  have protocols : SameProtocol F select options.allowImplicitCodec
      (Server.offeredProtocols request) (Go.offeredProtocols request) ↔ _ :=
    sameProtocol_iff agree.select (fun t mem => (Server.visible_offeredProtocols mem).1)
      offeredProtocols_prefix
  have here := Server.late_respond
    (Server.decision (Server.offeredProtocols request) select options.allowImplicitCodec)
  have there := Go.late_settle
    (Go.negotiate F (Go.offeredProtocols request) opts.select options.allowImplicitCodec)
  unfold SameDecision Unmistakable
  rw [sameUpgrade_iff, sameOrigins_iff, protocols, Server.outcome_accept, Go.outcome_accept,
    agree.implicit, agree.origins]
  exact stages_eq_iff here there

/-- No selector, and the default options. -/
theorem matching_default : Matching (fun _ => none) ⟨false, none⟩ ⟨none, false, none⟩ :=
  ⟨fun _ => rfl, rfl, rfl⟩

theorem sameDecision_iff_offersH2ts :
    Unmistakable Folding.latin offersH2ts (fun _ => none) ⟨false, none⟩ := by
  have same : SameDecision Folding.latin offersH2ts (fun _ => none) ⟨false, none⟩
      ⟨none, false, none⟩ := by
    unfold SameDecision
    decide +kernel
  exact (sameDecision_iff _ _ _ _ _ matching_default).mp same

/-- A client that offers `binary` and `h2ts` in two fields. -/
def offersTwice : Headers :=
  [(octets "Upgrade", octets "websocket"), (octets "Connection", octets "Upgrade"),
    (octets "Sec-WebSocket-Key", octets "dGhlIHNhbXBsZSBub25jZQ=="),
    (octets "Sec-WebSocket-Protocol", octets "binary"),
    (octets "Sec-WebSocket-Protocol", octets "h2ts")]

/-- The Rust server rejects that client with 400, the Go server echoes `h2ts`. -/
theorem not_sameDecision_offersTwice :
    Matching (fun _ => none) ⟨false, none⟩ ⟨none, false, none⟩ ∧
      ¬ SameDecision Folding.latin offersTwice (fun _ => none) ⟨false, none⟩ ⟨none, false, none⟩ := by
  refine ⟨matching_default, ?_⟩
  unfold SameDecision
  decide +kernel

end H2ts
