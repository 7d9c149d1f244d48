import LndkFormal.Bits.LittleEndian
import LndkFormal.Messenger.Relay
import LndkFormal.Messenger.Steps

/-!
# Whether a peer supports onion messages

LDK is told of a peer with or without support for onion messages.  The messenger
has this from LND: from the list of peers at the start, from the list after a
reconnection, or from `lookup_onion_support` for a peer that has come online.  The
lookup asks more than once, because the features of a new peer may be empty at
first.  The model of the messenger leaves the lookup's answer open; the model here
runs the lookup and refines it.
-/

set_option autoImplicit false

namespace LndkFormal.Messenger

open LndkFormal.Async
open LndkFormal.Bits
open LndkFormal.Ldk
open LndkFormal.Lnd
open LndkFormal.RateLimit
open LndkFormal.Tables

/-- `lookup_onion_support` asks for the peers.  If the peer is among them, it keeps
the features it found and runs `check_empty_features` under a timeout. -/
inductive Lookup where
  | asking
  | checking (features : List UInt32)
  | sleeping (features : List UInt32)
  deriving DecidableEq

inductive LookupMove where
  | listed (answer : Except Status (List Peer))
  | slept
  | elapsed

def Lookup.features : Lookup → Option (List UInt32)
  | .asking => none
  | .checking features => some features
  | .sleeping features => some features

def Lookup.next (ldk : Library) (pubkey : PublicKey) : Lookup → LookupMove → Option (Lookup ⊕ Bool)
  | .asking, .listed (.ok peers) =>
      match peers.find? fun peer => peer.pubKey = ldk.publicKeyToString pubkey with
      | some peer => some (.inl (.checking peer.features))
      | none => some (.inr false)
  | .asking, .listed (.error _) => some (.inr false)
  | .checking features, .listed (.ok peers) =>
      match peers.find? fun peer =>
          peer.pubKey = ldk.publicKeyToString pubkey ∧ peer.features ≠ [] with
      | some peer => some (.inr (featuresSupportOnionMessages peer.features))
      | none => some (.inl (.sleeping features))
  | .checking features, .listed (.error _) => some (.inl (.checking features))
  | .sleeping features, .slept => some (.inl (.checking features))
  | .checking features, .elapsed => some (.inr (featuresSupportOnionMessages features))
  | .sleeping features, .elapsed => some (.inr (featuresSupportOnionMessages features))
  | _, _ => none

/-! ## The messenger with its lookups -/

structure Detailed (cfg : RateLimiterCfg) where
  base : State cfg
  lookup : Lookup

inductive DetailedLabel where
  | other (label : Label)
  | lookup (move : LookupMove)

section Model

variable (parts : Parts)

def Detailed.next (s : Detailed parts.cfg) : DetailedLabel → Option (Detailed parts.cfg)
  | .other (.peers (.support _)) => none
  | .other (.peers (.receive result)) =>
      (s.base.next parts (.peers (.receive result))).map fun base => ⟨base, .asking⟩
  | .other label => (s.base.next parts label).map fun base => ⟨base, s.lookup⟩
  | .lookup move =>
      match s.base.peers with
      | .lookingUp pubkey =>
          match s.lookup.next parts.ldk pubkey move with
          | some (.inl lookup) => some ⟨s.base, lookup⟩
          | some (.inr support) =>
              (s.base.next parts (.peers (.support support))).map fun base => ⟨base, s.lookup⟩
          | none => none
      | _ => none

def detailed : Lts (Detailed parts.cfg) DetailedLabel where
  init := ⟨.init parts.cfg, .asking⟩
  next := Detailed.next parts

/-- The messenger sees a lookup when it is over. -/
def Detailed.coarse (s : Detailed parts.cfg) : DetailedLabel → Option Label
  | .other label => some label
  | .lookup move =>
      match s.base.peers with
      | .lookingUp pubkey =>
          match s.lookup.next parts.ldk pubkey move with
          | some (.inr support) => some (.peers (.support support))
          | _ => none
      | _ => none

end Model

section Steps

variable {parts : Parts} {s s' : Detailed parts.cfg}

theorem Detailed.next_other {label : Label} (taken : s.next parts (.other label) = some s') :
    s.base.next parts label = some s'.base ∧ (∀ support, label ≠ .peers (.support support)) ∧
      (s'.lookup = .asking ∨
        s'.lookup = s.lookup ∧ ∀ result, label ≠ .peers (.receive result)) := by
  unfold Detailed.next at taken
  split at taken
  · cases taken
  · rename_i result same
    cases same
    obtain ⟨base, next, rfl⟩ := Option.map_eq_some_iff.mp taken
    exact ⟨next, by simp, Or.inl rfl⟩
  · rename_i other unsupported unreceived same
    cases same
    obtain ⟨base, next, rfl⟩ := Option.map_eq_some_iff.mp taken
    exact ⟨next, unsupported, Or.inr ⟨rfl, unreceived⟩⟩
  · rename_i same
    cases same

/-- A move of the lookup of a peer: it goes on, or the messenger gets its result. -/
theorem Detailed.next_lookup {move : LookupMove} (taken : s.next parts (.lookup move) = some s') :
    ∃ pubkey, s.base.peers = .lookingUp pubkey ∧
      ((s.lookup.next parts.ldk pubkey move = some (.inl s'.lookup) ∧ s'.base = s.base) ∨
        ∃ support, s.lookup.next parts.ldk pubkey move = some (.inr support) ∧
          s.base.next parts (.peers (.support support)) = some s'.base ∧
          s'.lookup = s.lookup) := by
  simp only [Detailed.next] at taken
  split at taken
  · rename_i pubkey here
    refine ⟨pubkey, here, ?_⟩
    split at taken
    · rename_i lookup moved
      cases taken
      exact Or.inl ⟨moved, rfl⟩
    · rename_i support moved
      obtain ⟨base, next, rfl⟩ := Option.map_eq_some_iff.mp taken
      exact Or.inr ⟨support, moved, next, rfl⟩
    · cases taken
  · cases taken

theorem detailed_refines (parts : Parts) :
    (detailed parts).Refines (messenger parts) Detailed.base (Detailed.coarse parts) where
  init := rfl
  seen := by
    intro s label s' k taken sees
    cases label with
    | other label =>
        cases sees
        exact (Detailed.next_other taken).1
    | lookup move =>
        obtain ⟨pubkey, here, ⟨moved, _⟩ | ⟨support, moved, next, _⟩⟩ :=
          Detailed.next_lookup taken
        · simp only [Detailed.coarse, here, moved] at sees
          cases sees
        · simp only [Detailed.coarse, here, moved] at sees
          cases sees
          exact next
  hidden := by
    intro s label s' taken sees
    cases label with
    | other label => cases sees
    | lookup move =>
        obtain ⟨pubkey, here, ⟨_, same⟩ | ⟨support, moved, _, _⟩⟩ := Detailed.next_lookup taken
        · exact same
        · simp only [Detailed.coarse, here, moved] at sees
          cases sees

end Steps

section Vouched

variable {cfg : RateLimiterCfg} (P : PublicKey → Bool → Prop)

def MessengerEvent.Vouched : MessengerEvent → Prop
  | .peerConnected peer onionSupport => P peer onionSupport
  | _ => True

def Reconnection.Vouched : Reconnection → Prop
  | .sending rest => ∀ entry ∈ rest, P entry.1 entry.2
  | _ => True

def PeerProducer.Vouched : PeerProducer → Prop
  | .sending event => event.Vouched P
  | _ => True

def MessageProducer.Vouched : MessageProducer → Prop
  | .sending event => event.Vouched P
  | _ => True

def Main.Vouched : Main cfg → Prop
  | .queueing rest => ∀ entry ∈ rest, P entry.1 entry.2
  | _ => True

/-- Every connection event that is under way has the property. -/
structure State.Vouched (s : State cfg) : Prop where
  main : s.main.Vouched P
  queue : ∀ event ∈ s.queue, event.Vouched P
  reconnection : s.reconnection.Vouched P
  peers : s.peers.Vouched P
  messages : s.messages.Vouched P

def Local.Vouched {T : Type} (H : T → Prop) : Local T → Prop
  | .goto task | .notify task | .trigger task => H task
  | .send event sent failed => event.Vouched P ∧ H sent ∧ H failed

def Introduces (parts : Parts) (s : State parts.cfg) : Label → PublicKey → Bool → Prop
  | .listPeers (.ok peers), peer, support =>
      ∃ table, buildPeerSupport parts.ldk peers = some table ∧ (peer, support) ∈ entriesOf table
  | .reconnection (.reply (.ok peers)), peer, support =>
      ∃ table, buildPeerSupport parts.ldk peers = some table ∧ (peer, support) ∈ entriesOf table
  | .peers (.support result), peer, support => s.peers = .lookingUp peer ∧ support = result
  | _, _, _ => False

variable {P} {parts : Parts} {s s' : State parts.cfg} {label : Label}

theorem Performed.vouched {T : Type} {H : T → Prop} {shared : State parts.cfg} {done : Local T}
    {task : T} (performed : Performed s done shared task) (vouched : done.Vouched P H)
    (holds : s.Vouched P) : shared.Vouched P ∧ H task := by
  obtain ⟨main, queue, reconnection, peers, messages⟩ := holds
  cases performed with
  | goto _ kind | unheard _ kind | triggered _ kind =>
      rw [kind] at vouched
      exact ⟨⟨main, queue, reconnection, peers, messages⟩, vouched⟩
  | refused _ _ _ kind =>
      rw [kind] at vouched
      exact ⟨⟨main, queue, reconnection, peers, messages⟩, vouched.2.2⟩
  | woke _ kind =>
      rw [kind] at vouched
      exact ⟨⟨main, queue, trivial, peers, messages⟩, vouched⟩
  | sent event _ _ kind =>
      rw [kind] at vouched
      refine ⟨⟨main, ?_, reconnection, peers, messages⟩, vouched.2.1⟩
      intro other member
      rcases List.mem_append.mp member with old | new
      · exact queue other old
      · rw [List.mem_singleton.mp new]
        exact vouched.1

theorem Reconnection.sendAll_vouched {rest : List (PublicKey × Bool)}
    (vouched : ∀ entry ∈ rest, P entry.1 entry.2) : (Reconnection.sendAll rest).Vouched P := by
  cases rest with
  | nil => trivial
  | cons entry rest => exact vouched

theorem Reconnection.next_vouched {shutdown : Bool} {task : Reconnection}
    {move : ReconnectionMove} {done : Local Reconnection}
    (taken : task.next parts shutdown move = some done) (holds : task.Vouched P)
    (brings : ∀ peer support, Introduces parts s (.reconnection move) peer support →
      P peer support) : done.Vouched P (Reconnection.Vouched P) := by
  unfold Reconnection.next at taken
  split at taken
  case h_1 | h_2 | h_3 =>
      obtain ⟨-, rfl⟩ := onShutdown_cases taken
      trivial
  case h_6 peers =>
      split at taken
      next table built =>
        cases taken
        exact Reconnection.sendAll_vouched fun entry member => brings _ _ ⟨table, built, member⟩
      next =>
        cases taken
        trivial
  case h_7 => split at taken <;> cases taken <;> trivial
  case h_8 entry rest =>
      cases taken
      refine ⟨holds entry (.head _), ?_, trivial⟩
      exact Reconnection.sendAll_vouched fun other member => holds other (.tail _ member)
  case h_10 => cases taken
  all_goals
    cases taken
    trivial

theorem PeerProducer.next_vouched {shutdown : Bool} {task : PeerProducer} {move : PeerMove}
    {done : Local PeerProducer} (taken : task.next parts shutdown move = some done)
    (holds : task.Vouched P)
    (brings : ∀ peer support, task = .lookingUp peer → move = .support support →
      P peer support) : done.Vouched P (PeerProducer.Vouched P) := by
  unfold PeerProducer.next at taken
  split at taken
  case h_2 => split at taken <;> cases taken <;> trivial
  case h_3 =>
      obtain ⟨-, rfl⟩ := onShutdown_cases taken
      trivial
  case h_4 => split at taken <;> cases taken <;> trivial
  case h_6 pubkey support =>
      cases taken
      exact brings pubkey support rfl rfl
  case h_7 event =>
      cases taken
      exact ⟨holds, trivial, trivial⟩
  case h_8 =>
      cases taken
      exact ⟨trivial, trivial, trivial⟩
  case h_10 => cases taken
  all_goals
    cases taken
    trivial

theorem MessageProducer.next_vouched {shutdown : Bool} {task : MessageProducer}
    {move : MessageMove} {done : Local MessageProducer}
    (taken : task.next parts shutdown move = some done) (holds : task.Vouched P) :
    done.Vouched P (MessageProducer.Vouched P) := by
  unfold MessageProducer.next at taken
  split at taken
  case h_1 | h_5 =>
      obtain ⟨-, rfl⟩ := onShutdown_cases taken
      trivial
  case h_4 => split at taken <;> cases taken <;> trivial
  case h_6 =>
      split at taken
      · cases taken
        trivial
      · split at taken
        · cases taken
          trivial
        · split at taken <;> cases taken <;> trivial
  case h_8 event =>
      cases taken
      exact ⟨holds, trivial, trivial⟩
  case h_9 =>
      cases taken
      exact ⟨trivial, trivial, trivial⟩
  case h_10 => cases taken
  all_goals
    cases taken
    trivial

theorem Ticker.next_vouched {shutdown : Bool} {task : Ticker} {move : TickerMove}
    {done : Local Ticker} (taken : task.next shutdown move = some done) :
    done.Vouched P fun _ => True := by
  unfold Ticker.next at taken
  split at taken
  case h_1 =>
      obtain ⟨-, rfl⟩ := onShutdown_cases taken
      trivial
  case h_3 =>
      cases taken
      exact ⟨trivial, trivial, trivial⟩
  case h_5 => cases taken
  all_goals
    cases taken
    trivial

/-- A step vouches for what it brings in; the rest was vouched for before. -/
theorem Stepped.vouched (stepped : Stepped parts s label s') (holds : s.Vouched P)
    (brings : ∀ peer support, Introduces parts s label peer support → P peer support) :
    s'.Vouched P := by
  have whole := holds
  obtain ⟨main, queue, reconnection, peers, messages⟩ := holds
  cases stepped with
  | listed answer here =>
      unfold State.listed
      split
      next table built =>
        exact ⟨fun entry member => brings _ _ ⟨table, built, member⟩, queue, reconnection, peers,
          messages⟩
      next => exact ⟨trivial, queue, reconnection, peers, messages⟩
  | queued entry rest here room =>
      rw [here] at main
      refine ⟨fun other member => main other (.tail _ member), ?_, reconnection, peers, messages⟩
      intro event member
      rcases List.mem_append.mp member with old | new
      · exact queue event old
      · rw [List.mem_singleton.mp new]
        exact main entry (.head _)
  | unlisted | consume | hangUp => exact ⟨trivial, queue, reconnection, peers, messages⟩
  | spawnReconnection => exact ⟨trivial, queue, trivial, peers, messages⟩
  | spawnPeers => exact ⟨trivial, queue, reconnection, trivial, messages⟩
  | spawnMessages => exact ⟨trivial, queue, reconnection, peers, trivial⟩
  | spawnTicker => exact ⟨trivial, queue, reconnection, peers, messages⟩
  | take consumer event rest accepted here head =>
      refine ⟨?_, fun other member => queue other (by rw [head]; exact .tail _ member),
        reconnection, peers, messages⟩
      rcases consumer.handle_cases parts.clock accepted event with ⟨_, handled⟩ | ⟨_, handled⟩ <;>
        · rw [handled]
          trivial
  | interrupt => exact ⟨main, queue, reconnection, peers, messages⟩
  | lnd => exact whole
  | reconnection move done taken performed =>
      obtain ⟨shared, task, effect, rfl⟩ := perform_cases performed
      obtain ⟨kept, task⟩ :=
        effect.vouched (Reconnection.next_vouched taken reconnection brings) whole
      exact ⟨kept.main, kept.queue, task, kept.peers, kept.messages⟩
  | peers move done taken performed =>
      obtain ⟨shared, task, effect, rfl⟩ := perform_cases performed
      have brought : ∀ peer support, s.peers = .lookingUp peer → move = .support support →
          P peer support := by
        rintro peer support here rfl
        exact brings peer support ⟨here, rfl⟩
      obtain ⟨kept, task⟩ := effect.vouched (PeerProducer.next_vouched taken peers brought) whole
      exact ⟨kept.main, kept.queue, kept.reconnection, task, kept.messages⟩
  | messages move done taken performed =>
      obtain ⟨shared, task, effect, rfl⟩ := perform_cases performed
      obtain ⟨kept, task⟩ := effect.vouched (MessageProducer.next_vouched taken messages) whole
      exact ⟨kept.main, kept.queue, kept.reconnection, kept.peers, task⟩
  | ticker move done taken performed =>
      obtain ⟨shared, task, effect, rfl⟩ := perform_cases performed
      obtain ⟨kept, _⟩ := effect.vouched (Ticker.next_vouched taken) whole
      exact ⟨kept.main, kept.queue, kept.reconnection, kept.peers, kept.messages⟩

theorem MessengerEvent.Vouched.mono {Q : PublicKey → Bool → Prop} {event : MessengerEvent}
    (vouched : event.Vouched P) (weaker : ∀ peer support, P peer support → Q peer support) :
    event.Vouched Q := by
  cases event with
  | peerConnected peer support => exact weaker peer support vouched
  | _ => trivial

theorem State.Vouched.mono {Q : PublicKey → Bool → Prop} (holds : s.Vouched P)
    (weaker : ∀ peer support, P peer support → Q peer support) : s.Vouched Q := by
  obtain ⟨main, queue, reconnection, peers, messages⟩ := holds
  refine ⟨?_, fun event member => (queue event member).mono weaker, ?_, ?_, ?_⟩
  · cases here : s.main with
    | queueing rest =>
        rw [here] at main
        exact fun entry member => weaker _ _ (main entry member)
    | _ => trivial
  · cases here : s.reconnection with
    | sending rest =>
        rw [here] at reconnection
        exact fun entry member => weaker _ _ (reconnection entry member)
    | _ => trivial
  · cases here : s.peers with
    | sending event =>
        rw [here] at peers
        exact MessengerEvent.Vouched.mono peers weaker
    | _ => trivial
  · cases here : s.messages with
    | sending event =>
        rw [here] at messages
        exact MessengerEvent.Vouched.mono messages weaker
    | _ => trivial

end Vouched

/-! ## What LND has said -/

section Said

variable (ldk : Library)

def Unlisted (peer : PublicKey) : Except Status (List Peer) → Prop
  | .ok peers => ∀ listed ∈ peers, listed.pubKey ≠ ldk.publicKeyToString peer
  | .error _ => True

/-- LND has listed the peer with features that say so, or it is taken to have no
support because LND did not answer or did not list it. -/
def Grounded (answers : List (Except Status (List Peer))) (peer : PublicKey)
    (onionSupport : Bool) : Prop :=
  (∃ peers, .ok peers ∈ answers ∧ ∃ listed ∈ peers,
    (ldk.publicKeyFromStr listed.pubKey = some peer ∨
      listed.pubKey = ldk.publicKeyToString peer) ∧
    featuresSupportOnionMessages listed.features = onionSupport) ∨
  (onionSupport = false ∧ ∃ answer ∈ answers, Unlisted ldk peer answer)

variable {ldk} {answers : List (Except Status (List Peer))} {peer : PublicKey} {support : Bool}

theorem Grounded.extend (grounded : Grounded ldk answers peer support)
    (more : List (Except Status (List Peer))) : Grounded ldk (answers ++ more) peer support := by
  rcases grounded with ⟨peers, said, listed⟩ | ⟨none, answer, said, unlisted⟩
  · exact Or.inl ⟨peers, List.mem_append_left _ said, listed⟩
  · exact Or.inr ⟨none, answer, List.mem_append_left _ said, unlisted⟩

theorem foldlM_listed {peers : List Peer} {before table : Table PublicKey Bool}
    (built : peers.foldlM (fun support peer => (ldk.publicKeyFromStr peer.pubKey).map fun pubkey =>
      support.insert pubkey (featuresSupportOnionMessages peer.features)) before = some table)
    (found : table.lookup peer = some support) :
    before.lookup peer = some support ∨ ∃ listed ∈ peers,
      ldk.publicKeyFromStr listed.pubKey = some peer ∧
        featuresSupportOnionMessages listed.features = support := by
  induction peers generalizing before with
  | nil =>
      cases built
      exact Or.inl found
  | cons first rest ih =>
      rw [List.foldlM_cons] at built
      obtain ⟨next, inserted, built⟩ := Option.bind_eq_some_iff.mp built
      obtain ⟨key, spelled, rfl⟩ := Option.map_eq_some_iff.mp inserted
      rcases ih built with earlier | ⟨listed, member, same⟩
      · rw [Table.lookup_insert_cases] at earlier
        split at earlier
        · rename_i same
          subst same
          cases earlier
          exact Or.inr ⟨first, .head _, spelled, rfl⟩
        · exact Or.inl earlier
      · exact Or.inr ⟨listed, .tail _ member, same⟩

theorem buildPeerSupport_grounded {peers : List Peer} {table : Table PublicKey Bool}
    (built : buildPeerSupport ldk peers = some table) (member : (peer, support) ∈ entriesOf table)
    (said : .ok peers ∈ answers) : Grounded ldk answers peer support := by
  obtain ⟨⟨key, value⟩, entry, same⟩ := List.mem_map.mp member
  cases same
  have found : table.lookup key = some value := AList.mem_lookup_iff.mpr entry
  rcases foldlM_listed built found with none | ⟨listed, inList, spelled, equal⟩
  · cases none
  · exact Or.inl ⟨peers, said, listed, inList, Or.inl spelled, equal⟩

def LookupMove.answer : LookupMove → Option (Except Status (List Peer))
  | .listed answer => some answer
  | _ => none

variable (ldk answers peer) in
def Lookup.Grounds : Lookup ⊕ Bool → Prop
  | .inl lookup => ∀ features, lookup.features = some features →
      Grounded ldk answers peer (featuresSupportOnionMessages features)
  | .inr support => Grounded ldk answers peer support

theorem Lookup.next_grounded {lookup : Lookup} {move : LookupMove} {outcome : Lookup ⊕ Bool}
    (moved : lookup.next ldk peer move = some outcome)
    (before : Lookup.Grounds ldk answers peer (.inl lookup)) :
    Lookup.Grounds ldk (answers ++ move.answer.toList) peer outcome := by
  have kept : ∀ features, lookup.features = some features →
      Grounded ldk (answers ++ move.answer.toList) peer (featuresSupportOnionMessages features) :=
    fun features has => (before features has).extend _
  have last : ∀ answer, move = .listed answer → answer ∈ answers ++ move.answer.toList := by
    rintro answer rfl
    exact List.mem_append_right _ (.head _)
  unfold Lookup.next at moved
  split at moved
  case h_1 peers =>
      split at moved
      · rename_i listed found
        cases moved
        rintro features ⟨⟩
        have spelled : listed.pubKey = ldk.publicKeyToString peer := by
          simpa using List.find?_some found
        exact Or.inl ⟨peers, last _ rfl, listed, List.mem_of_find?_eq_some found, Or.inr spelled,
          rfl⟩
      · rename_i absent
        cases moved
        refine Or.inr ⟨rfl, _, last _ rfl, ?_⟩
        simpa [Unlisted] using List.find?_eq_none.mp absent
  case h_2 =>
      cases moved
      exact Or.inr ⟨rfl, _, last _ rfl, trivial⟩
  case h_3 features peers =>
      split at moved
      · rename_i listed found
        cases moved
        have spelled : listed.pubKey = ldk.publicKeyToString peer ∧ listed.features ≠ [] := by
          simpa using List.find?_some found
        exact Or.inl ⟨peers, last _ rfl, listed, List.mem_of_find?_eq_some found,
          Or.inr spelled.1, rfl⟩
      · cases moved
        exact kept
  case h_4 | h_5 =>
      cases moved
      exact kept
  case h_6 features | h_7 features =>
      cases moved
      exact kept features rfl
  case h_8 => cases moved

end Said

/-- LND's answers about peers, and the events that the consumer has taken. -/
structure Overheard where
  answers : List (Except Status (List Peer))
  taken : List MessengerEvent

def DetailedLabel.answer : DetailedLabel → Option (Except Status (List Peer))
  | .other (.listPeers answer) => some answer
  | .other (.reconnection (.reply answer)) => some answer
  | .lookup move => move.answer
  | _ => none

def DetailedLabel.takes : DetailedLabel → Bool
  | .other (.take _) => true
  | _ => false

def noteOverheard {cfg : RateLimiterCfg} (noted : Overheard) (s : Detailed cfg)
    (label : DetailedLabel) (_ : Detailed cfg) : Overheard where
  answers := noted.answers ++ label.answer.toList
  taken := noted.taken ++ if label.takes then s.base.queue.head?.toList else []

def overheard (parts : Parts) (labels : List DetailedLabel) : Overheard :=
  (detailed parts).record noteOverheard ⟨[], []⟩ (detailed parts).init labels

section Runs

variable {parts : Parts} {s s' : Detailed parts.cfg} {noted : Overheard}

/-- All that the messenger holds or has handed over is grounded in LND's answers. -/
structure Informed (parts : Parts) (noted : Overheard) (s : Detailed parts.cfg) : Prop where
  base : s.base.Vouched (Grounded parts.ldk noted.answers)
  taken : ∀ event ∈ noted.taken, event.Vouched (Grounded parts.ldk noted.answers)
  lookup : ∀ peer, s.base.peers = .lookingUp peer →
    Lookup.Grounds parts.ldk noted.answers peer (.inl s.lookup)

theorem PeerProducer.next_lookingUp {shutdown : Bool} {task : PeerProducer} {move : PeerMove}
    {done : Local PeerProducer} {peer : PublicKey}
    (taken : task.next parts shutdown move = some done) :
    done.leads fun after => after = .lookingUp peer → ∃ result, move = .receive result := by
  unfold PeerProducer.next at taken
  split at taken
  case h_2 => split at taken <;> cases taken <;> simp [Local.leads]
  case h_3 =>
      obtain ⟨-, rfl⟩ := onShutdown_cases taken
      simp [Local.leads]
  case h_4 => split at taken <;> cases taken <;> exact fun _ => ⟨_, rfl⟩
  case h_10 => cases taken
  all_goals
    cases taken
    simp [Local.leads]

/-- A lookup begins with an event of LND and with nothing else. -/
theorem Stepped.lookingUp {s s' : State parts.cfg} {label : Label} {peer : PublicKey}
    (stepped : Stepped parts s label s') (looking : s'.peers = .lookingUp peer) :
    s.peers = .lookingUp peer ∨ ∃ result, label = .peers (.receive result) := by
  cases stepped with
  | listed answer here =>
      unfold State.listed at looking
      split at looking <;> exact Or.inl looking
  | spawnPeers => cases looking
  | reconnection move done taken performed =>
      obtain ⟨shared, task, effect, rfl⟩ := perform_cases performed
      exact Or.inl (effect.peers.symm.trans looking)
  | messages move done taken performed =>
      obtain ⟨shared, task, effect, rfl⟩ := perform_cases performed
      exact Or.inl (effect.peers.symm.trans looking)
  | ticker move done taken performed =>
      obtain ⟨shared, task, effect, rfl⟩ := perform_cases performed
      exact Or.inl (effect.peers.symm.trans looking)
  | peers move done taken performed =>
      obtain ⟨shared, task, effect, rfl⟩ := perform_cases performed
      obtain ⟨result, same⟩ := effect.leads (PeerProducer.next_lookingUp taken) looking
      exact Or.inr ⟨result, by rw [same]⟩
  | _ => exact Or.inl looking

theorem Informed.taken_extend {label : DetailedLabel} (holds : Informed parts noted s) :
    ∀ event ∈ (noteOverheard noted s label s').taken,
      event.Vouched (Grounded parts.ldk (noteOverheard noted s label s').answers) := by
  intro event member
  have extend : ∀ peer support, Grounded parts.ldk noted.answers peer support →
      Grounded parts.ldk (noteOverheard noted s label s').answers peer support :=
    fun _ _ grounded => grounded.extend _
  simp only [noteOverheard, List.mem_append] at member
  rcases member with old | new
  · exact (holds.taken event old).mono extend
  · split at new
    · have queued : event ∈ s.base.queue := List.mem_of_mem_head? (by simpa using new)
      exact (holds.base.queue event queued).mono extend
    · cases new

theorem Informed.other {label : Label} (holds : Informed parts noted s)
    (taken : s.next parts (.other label) = some s') :
    Informed parts (noteOverheard noted s (.other label) s') s' := by
  obtain ⟨next, unsupported, lookup⟩ := Detailed.next_other taken
  have stepped := next_stepped next
  have extend : ∀ peer support, Grounded parts.ldk noted.answers peer support →
      Grounded parts.ldk (noteOverheard noted s (.other label) s').answers peer support :=
    fun _ _ grounded => grounded.extend _
  refine ⟨stepped.vouched (holds.base.mono extend) ?_, holds.taken_extend, ?_⟩
  · intro peer support brings
    unfold Introduces at brings
    split at brings
    · obtain ⟨table, built, member⟩ := brings
      exact buildPeerSupport_grounded built member (List.mem_append_right _ (.head _))
    · obtain ⟨table, built, member⟩ := brings
      exact buildPeerSupport_grounded built member (List.mem_append_right _ (.head _))
    · exact absurd rfl (unsupported _)
    · exact brings.elim
  · intro peer looking features has
    rcases lookup with fresh | ⟨same, unreceived⟩
    · rw [fresh] at has
      cases has
    · rcases stepped.lookingUp looking with before | ⟨result, received⟩
      · rw [same] at has
        exact extend _ _ (holds.lookup peer before features has)
      · exact absurd received (unreceived result)

theorem Informed.lookupMove {move : LookupMove} (holds : Informed parts noted s)
    (taken : s.next parts (.lookup move) = some s') :
    Informed parts (noteOverheard noted s (.lookup move) s') s' := by
  obtain ⟨pubkey, here, goesOn⟩ := Detailed.next_lookup taken
  have extend : ∀ peer support, Grounded parts.ldk noted.answers peer support →
      Grounded parts.ldk (noteOverheard noted s (.lookup move) s').answers peer support :=
    fun _ _ grounded => grounded.extend _
  rcases goesOn with ⟨moved, same⟩ | ⟨support, moved, next, kept⟩
  · have grounds := Lookup.next_grounded moved (holds.lookup pubkey here)
    refine ⟨by rw [same]; exact holds.base.mono extend, holds.taken_extend, ?_⟩
    intro peer looking
    rw [same, here] at looking
    cases looking
    exact grounds
  · have grounds := Lookup.next_grounded moved (holds.lookup pubkey here)
    have stepped := next_stepped next
    refine ⟨stepped.vouched (holds.base.mono extend) ?_, holds.taken_extend, ?_⟩
    · rintro peer _ ⟨looking, rfl⟩
      rw [here] at looking
      cases looking
      exact grounds
    · intro peer looking features has
      rcases stepped.lookingUp looking with before | ⟨result, impossible⟩
      · rw [kept] at has
        exact extend _ _ (holds.lookup peer before features has)
      · cases impossible

theorem run_informed {guard : Lts.Guard (Detailed parts.cfg) DetailedLabel}
    {labels : List DetailedLabel} (run : (detailed parts).Run guard labels s) :
    Informed parts (overheard parts labels) s := by
  refine run.record_invariant (I := Informed parts) ?_ ?_
  · refine ⟨⟨trivial, by simp [detailed, State.init], trivial, trivial, trivial⟩, by simp, ?_⟩
    intro peer looking
    cases looking
  · intro labels noted s label s' _ holds _ taken
    cases label with
    | other label => exact holds.other taken
    | lookup move => exact holds.lookupMove taken

end Runs

/-- The features that the consumer writes: the bit for onion messages and no other. -/
theorem bitAt_initFeatures (onionSupport : Bool) (k : Nat) :
    bitAt (initFeatures onionSupport) k =
      (onionSupport && k == ONION_MESSAGES_OPTIONAL.toNat) := by
  cases onionSupport with
  | false => exact bitAt_replicate_zero 0 k
  | true =>
      by_cases inside : k < 64
      · have each : ∀ k < 64, bitAt (initFeatures true) k =
            (true && k == ONION_MESSAGES_OPTIONAL.toNat) := by decide
        exact each k inside
      · have behind : (initFeatures true).getD (k / 8) 0 = 0 := by
          have length : (initFeatures true).length = 8 := by decide
          rw [List.getD_eq_getElem?_getD, List.getElem?_eq_none (by omega)]
          rfl
        have other : (k == ONION_MESSAGES_OPTIONAL.toNat) = false := by
          rw [beq_eq_false_iff_ne]
          intro same
          exact inside (same ▸ (by decide))
        rw [bitAt, behind, other]
        simp

def ToldAs (events : List MessengerEvent) : Event RelaySig → Prop
  | .call (.peerConnected peer init) _ =>
      ∃ support, .peerConnected peer support ∈ events ∧ init.features = initFeatures support
  | _ => True

section Consumer

variable {parts : RelayParts} {cfg : RateLimiterCfg} {network : Network}

theorem handleEvent_told {events : List MessengerEvent} {event : MessengerEvent}
    (listed : event ∈ events) (limiter : TokenLimiter cfg) :
    (handleEvent parts network limiter event).Within (ToldAs events) := by
  cases event with
  | peerConnected peer support =>
      refine Prog.within_request_bind.mpr fun reply => ⟨⟨support, listed, rfl⟩, ?_⟩
      cases reply with
      | error e => trivial
      | ok done => trivial
  | peerDisconnected peer => exact fun _ => ⟨trivial, trivial⟩
  | incomingMessage peer message =>
      simp only [handleEvent]
      split
      · exact fun _ => ⟨trivial, trivial⟩
      · trivial
  | sendOutgoing =>
      refine Prog.within_request_bind.mpr fun _ => ⟨trivial, ?_⟩
      refine Prog.within_request_bind.mpr fun order => ⟨trivial, ?_⟩
      refine Prog.Within.bind ((pollPeers_within order.1).mono ?_) fun _ => trivial
      intro event polls
      rcases polls with ⟨peer, reply, rfl⟩ | ⟨request, outcome, rfl⟩
      · trivial
      · trivial
  | producerExit e => trivial

theorem consumeMessengerEvents_told {events rest : List MessengerEvent}
    (listed : ∀ event ∈ rest, event ∈ events) (limiter : TokenLimiter cfg) :
    (consumeMessengerEvents parts network limiter rest).Within (ToldAs events) := by
  induction rest generalizing limiter with
  | nil => trivial
  | cons event rest ih =>
      refine fun _ => ⟨trivial, ?_⟩
      refine (handleEvent_told (listed event (.head _)) limiter).andThen fun after => ?_
      exact ih (fun other member => listed other (.tail _ member)) after

end Consumer

/-- In every run of the messenger with its lookups, whatever the order of its steps,
LDK is told of a peer's support as LND's answers have it, and of no other feature.
Each such run is a run of the messenger. -/
theorem support_grounded (parts : Parts) (guard : Lts.Guard (Detailed parts.cfg) DetailedLabel)
    (labels : List DetailedLabel) (s : Detailed parts.cfg)
    (run : (detailed parts).Run guard labels s) (relay : RelayParts) (network : Network)
    {cfg : RateLimiterCfg} (limiter : TokenLimiter cfg) (trace : List (Event RelaySig))
    (rest : Prog RelaySig (Except ConsumerError Unit))
    (consumed : Reaches
      (consumeMessengerEvents relay network limiter (overheard parts labels).taken) trace rest) :
    (messenger parts).Run Lts.unguarded
      ((detailed parts).coarsen (Detailed.coarse parts) labels) s.base ∧
    ∀ peer init reply, .call (.peerConnected peer init) reply ∈ trace →
      Grounded parts.ldk (overheard parts labels).answers peer
        (bitAt init.features ONION_MESSAGES_OPTIONAL.toNat) ∧
      ∀ k, bitAt init.features k = true → k = ONION_MESSAGES_OPTIONAL.toNat := by
  refine ⟨(detailed_refines parts).run run, ?_⟩
  intro peer init reply told
  have within : (consumeMessengerEvents relay network limiter (overheard parts labels).taken).Within
      (ToldAs (overheard parts labels).taken) :=
    consumeMessengerEvents_told (fun _ member => member) limiter
  obtain ⟨support, taken, features⟩ := within_reaches within consumed _ told
  have informed := (run_informed run).taken _ taken
  rw [features]
  refine ⟨?_, ?_⟩
  · rw [bitAt_initFeatures, beq_self_eq_true, Bool.and_true]
    exact informed
  · intro k set
    rw [bitAt_initFeatures, Bool.and_eq_true, beq_iff_eq] at set
    exact set.2

/-- A peer that comes online is first listed without features and then with support. -/
def lookupTwice : List DetailedLabel :=
  startAlone.map .other ++
    [.other (.peers (.subscribe (.ok ()))), .other (.peers (.receive (.ok ⟨"", .peerOnline⟩))),
      .lookup (.listed (.ok [⟨"", []⟩])),
      .lookup (.listed (.ok [⟨"", [ONION_MESSAGES_OPTIONAL]⟩])),
      .other (.peers .send), .other (.take true)]

def lookupConsumed : List (Event RelaySig) × Prog RelaySig (Except ConsumerError Unit) :=
  (consumeMessengerEvents plainRelay .regtest (TokenLimiter.new plainRelay.clock ⟨2, 1000⟩ [])
    (overheard sampleParts lookupTwice).taken).play (fun _ => ()) [oneMessage, oneMessage]

theorem support_grounded_lookupTwice :
    ∃ s : Detailed sampleParts.cfg, (detailed sampleParts).Run Lts.unguarded lookupTwice s ∧
      .call (.peerConnected (.repeated 2) ⟨initFeatures true, [⟨0⟩]⟩) (.ok ()) ∈
        lookupConsumed.1 ∧
      Grounded sampleParts.ldk (overheard sampleParts lookupTwice).answers (.repeated 2) true := by
  obtain ⟨s, followed⟩ : ∃ s, (detailed sampleParts).follow Lts.unguarded [] lookupTwice
      (detailed sampleParts).init = some s := ⟨_, rfl⟩
  have run : (detailed sampleParts).Run Lts.unguarded lookupTwice s := Lts.run_of_follow followed
  have told : .call (.peerConnected (.repeated 2) ⟨initFeatures true, [⟨0⟩]⟩) (.ok ()) ∈
      lookupConsumed.1 := .tail _ (.head _)
  have grounded := (support_grounded sampleParts Lts.unguarded lookupTwice s run plainRelay
    .regtest _ _ _ (Prog.play_reaches _ _ _)).2 _ _ _ told
  exact ⟨s, run, told, grounded.1⟩

end LndkFormal.Messenger
