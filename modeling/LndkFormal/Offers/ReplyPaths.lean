import LndkFormal.Offers.OfferCreation
import Mathlib.Data.List.TakeDrop

/-!
# Introduction nodes

Which nodes the blinded paths of LNDK begin at: those of an offer, found among
our channels, and that of the reply path of an invoice request, found among our
peers.  A behaviour of `get_node_info` is an answer for each channel or peer
that LND has listed.
-/

set_option autoImplicit false

namespace LndkFormal.Offers

open LndkFormal.Async
open LndkFormal.Lnd
open LndkFormal.Ldk

theorem mem_insertNode {nodes : List PublicKey} {node other : PublicKey} :
    other ∈ insertNode nodes node ↔ other ∈ nodes ∨ other = node := by
  unfold insertNode
  split
  · rename_i known
    constructor
    · exact .inl
    · intro either
      rcases either with member | same
      · exact member
      · rw [same]
        exact known
  · simp

theorem prefix_insertNode (nodes : List PublicKey) (node : PublicKey) :
    nodes <+: insertNode nodes node := by
  unfold insertNode
  split
  · exact List.prefix_refl nodes
  · exact List.prefix_append nodes [node]

theorem length_insertNode_le (nodes : List PublicKey) (node : PublicKey) :
    (insertNode nodes node).length ≤ nodes.length + 1 := by
  unfold insertNode
  split <;> simp

theorem prefix_insertNodes (keys nodes : List PublicKey) :
    nodes <+: keys.foldl insertNode nodes := by
  induction keys generalizing nodes with
  | nil => exact List.prefix_refl nodes
  | cons key keys ih => exact (prefix_insertNode nodes key).trans (ih _)

theorem mem_insertNodes {keys nodes : List PublicKey} {node : PublicKey} :
    node ∈ keys.foldl insertNode nodes ↔ node ∈ nodes ∨ node ∈ keys := by
  induction keys generalizing nodes with
  | nil => simp
  | cons key keys ih => rw [List.foldl_cons, ih, mem_insertNode, List.mem_cons, or_assoc]

theorem insertNodes_eq_eraseDups (keys : List PublicKey) :
    keys.foldl insertNode [] = keys.eraseDups := by
  induction keys using List.reverseRecOn with
  | nil => rfl
  | append_singleton keys key ih =>
    rw [List.foldl_append, List.eraseDups_append, ← ih]
    have known : key ∈ keys.foldl insertNode [] ↔ key ∈ keys := by
      rw [mem_insertNodes]
      simp
    by_cases member : key ∈ keys
    · simp [insertNode, known, member, List.removeAll]
    · simp [insertNode, known, member, List.removeAll, List.eraseDups_cons]

def nodeReply : Event CreationSig → Option (Except Status NodeInfo)
  | .call (.getNodeInfo _ _) reply => some reply
  | _ => none

/-- The node supports onion messages and has another public channel. -/
def Suitable (channel : Channel) : Except Status NodeInfo → Prop
  | .error _ => False
  | .ok info =>
      (∃ node ∈ info.node, featuresSupportOnionMessages node.features = true) ∧
        ∃ edge ∈ info.channels, edge.channelId ≠ channel.chanId

instance (channel : Channel) : DecidablePred (Suitable channel)
  | .error _ => isFalse id
  | .ok _ => inferInstanceAs (Decidable (_ ∧ _))

theorem suitable_iff (channel : Channel) (node : LightningNode) (channels : List ChannelEdge) :
    Suitable channel (.ok ⟨some node, channels⟩) ↔
      (!(channels.filter fun peerChannel => peerChannel.channelId != channel.chanId).isEmpty &&
        featuresSupportOnionMessages node.features) = true := by
  simp [Suitable, and_comm]

section Channels

variable (ldk : Library)

def introOf (entry : Channel × Except Status NodeInfo) : Option PublicKey :=
  if Suitable entry.1 entry.2 then ldk.publicKeyFromStr entry.1.remotePubkey else none

/-- The different nodes that can introduce a path, in the order of the channels. -/
def candidates (answered : List (Channel × Except Status NodeInfo)) : List PublicKey :=
  (answered.filterMap (introOf ldk)).eraseDups

variable {ldk}

/-- One round of the loop: it asks about the channel and inserts its node if that
can introduce a path. -/
theorem findIntroChannels_round {channel : Channel} {rest : List Channel}
    {introChannels chosen : List PublicKey} {trace : List (Event CreationSig)}
    (few : ¬ introChannels.length > 3)
    (run : Reaches (findIntroChannels ldk (channel :: rest) introChannels) trace (.ret chosen)) :
    ∃ (reply : Except Status NodeInfo) (later : List (Event CreationSig)),
      trace = .call (.getNodeInfo channel.remotePubkey true) reply :: later ∧
      Reaches (findIntroChannels ldk rest
        ((introOf ldk (channel, reply)).elim introChannels (insertNode introChannels)))
        later (.ret chosen) := by
  rw [findIntroChannels, if_neg few] at run
  obtain ⟨reply, later, split, onward⟩ := reaches_request_bind run
  refine ⟨reply, later, split, ?_⟩
  cases reply with
  | error e => exact onward
  | ok info =>
    obtain ⟨node, channels⟩ := info
    cases node with
    | none => simpa [introOf, Suitable] using onward
    | some node =>
      have suitable := suitable_iff channel node channels
      dsimp only at onward
      split at onward
      · rename_i empty
        have never : ¬ Suitable channel (.ok ⟨some node, channels⟩) := by
          rw [suitable, List.isEmpty_iff.mp empty]
          simp
        simpa [introOf, never] using onward
      · split at onward
        · rename_i others
          split at onward
          · cases onward
          · rename_i pubkey parsed
            simpa [introOf, suitable.mpr others, parsed] using onward
        · rename_i others
          simpa [introOf, suitable.not.mpr others] using onward

theorem findIntroChannels_asked {channels : List Channel} {introChannels chosen : List PublicKey}
    {trace : List (Event CreationSig)}
    (run : Reaches (findIntroChannels ldk channels introChannels) trace (.ret chosen)) :
    (trace.filterMap nodeReply).length ≤ channels.length := by
  induction channels generalizing introChannels trace with
  | nil =>
    cases run
    exact Nat.le_refl 0
  | cons channel rest ih =>
    by_cases full : introChannels.length > 3
    · rw [findIntroChannels, if_pos full] at run
      cases run
      exact Nat.zero_le _
    · obtain ⟨reply, later, rfl, onward⟩ := findIntroChannels_round full run
      exact Nat.succ_le_succ (ih onward)

theorem length_insertIntro_le (introChannels : List PublicKey) (intro : Option PublicKey) :
    (intro.elim introChannels (insertNode introChannels)).length ≤ introChannels.length + 1 := by
  cases intro with
  | none => simp
  | some node => exact length_insertNode_le introChannels node

/-- The loop finds the first four candidates.  It stops only once it has four, since
its guard `len() > 3` is read before the insertion. -/
theorem findIntroChannels_chosen {answered : List (Channel × Except Status NodeInfo)}
    {introChannels chosen : List PublicKey} {trace : List (Event CreationSig)}
    (room : introChannels.length ≤ 4)
    (run : Reaches (findIntroChannels ldk (answered.map Prod.fst) introChannels) trace
      (.ret chosen))
    (behaves : trace.filterMap nodeReply <+: answered.map Prod.snd) :
    chosen = ((answered.filterMap (introOf ldk)).foldl insertNode introChannels).take 4 := by
  induction answered generalizing introChannels trace with
  | nil =>
    cases run
    exact (List.take_of_length_le room).symm
  | cons entry rest ih =>
    obtain ⟨channel, answer⟩ := entry
    by_cases full : introChannels.length > 3
    · rw [List.map_cons, findIntroChannels, if_pos full] at run
      have same : chosen = introChannels := by
        cases run
        rfl
      have four : introChannels.length = 4 := by omega
      have longer := prefix_insertNodes
        (((channel, answer) :: rest).filterMap (introOf ldk)) introChannels
      rw [same, ← four]
      exact List.prefix_iff_eq_take.mp longer
    · obtain ⟨reply, later, split, onward⟩ := findIntroChannels_round full run
      have asked : trace.filterMap nodeReply = reply :: later.filterMap nodeReply := by
        rw [split]
        rfl
      rw [asked, List.map_cons, List.cons_prefix_cons] at behaves
      obtain ⟨same, behaves⟩ := behaves
      subst same
      have grown := length_insertIntro_le introChannels (introOf ldk (channel, reply))
      have fits := Nat.le_trans grown (by omega : introChannels.length + 1 ≤ 4)
      rw [ih fits onward behaves, List.filterMap_cons]
      cases introOf ldk (channel, reply) <;> rfl

/-! ## The paths of an offer -/

def BuiltThrough (trace : List (Event CreationSig)) (nodeId : PublicKey)
    (context : OffersContext) (node : PublicKey) (path : BlindedMessagePath) : Prop :=
  .call (.messagePath [node] nodeId context) (some path) ∈ trace

theorem buildPaths_built {nodeId : PublicKey} {context : OffersContext} {nodes : List PublicKey}
    {trace : List (Event CreationSig)} {paths : List BlindedMessagePath}
    (run : Reaches (buildPaths nodeId context nodes) trace (.ret (.ok paths))) :
    List.Forall₂ (BuiltThrough trace nodeId context) nodes paths := by
  induction nodes generalizing trace paths with
  | nil =>
    cases run
    exact .nil
  | cons node rest ih =>
    obtain ⟨reply, onward, split, run⟩ := reaches_request_bind run
    cases reply with
    | none => cases run
    | some path =>
      obtain ⟨built, done, later, inner, outer, whole⟩ := reaches_andThen_ok run
      cases outer
      rw [split, whole, List.append_nil]
      refine .cons List.mem_cons_self ((ih inner).imp fun _ _ call => ?_)
      exact List.mem_cons_of_mem _ call

/-- What a successful run of `create_reply_path_for_offer_creation` has done. -/
inductive OfferPaths (ldk : Library) (nodeId : PublicKey) (context : OffersContext)
    (channels : List Channel) : List (Event CreationSig) → List BlindedMessagePath → Prop where
  | oneHop {asked : List (Event CreationSig)} {path : BlindedMessagePath}
      (found : Reaches (findIntroChannels ldk channels []) asked (.ret [])) :
      OfferPaths ldk nodeId context channels
        (.call .listActivePublicChannels (.ok channels) :: asked ++
          [.call (.oneHopPath nodeId context) (some path)]) [path]
  | through {asked built : List (Event CreationSig)} {nodes : List PublicKey}
      {order : { order : List PublicKey // order.Perm nodes }} {paths : List BlindedMessagePath}
      (found : Reaches (findIntroChannels ldk channels []) asked (.ret nodes))
      (nonempty : nodes ≠ [])
      (build : Reaches (buildPaths nodeId context order.1) built (.ret (.ok paths))) :
      OfferPaths ldk nodeId context channels
        (.call .listActivePublicChannels (.ok channels) :: asked ++
          .call (.iterate nodes) order :: built) paths

theorem offerPaths_of_reaches {nodeId : PublicKey} {context : OffersContext}
    {trace : List (Event CreationSig)} {paths : List BlindedMessagePath}
    (run : Reaches (createReplyPathForOfferCreation ldk nodeId context) trace (.ret (.ok paths))) :
    ∃ channels, OfferPaths ldk nodeId context channels trace paths := by
  obtain ⟨reply, onward, split, run⟩ := reaches_request_bind run
  cases reply with
  | error e => cases run
  | ok channels =>
    obtain ⟨asked, rest, nodes, whole, found, final⟩ := reaches_bind_ret run
    refine ⟨channels, ?_⟩
    rw [split, whole]
    by_cases empty : nodes = []
    · subst empty
      obtain ⟨reply, done, last, final⟩ := reaches_request_bind final
      cases reply with
      | none => cases final
      | some path =>
        cases final
        rw [last]
        exact .oneHop found
    · rw [if_neg (mt List.isEmpty_iff.mp empty)] at final
      obtain ⟨order, built, last, build⟩ := reaches_request_bind final
      rw [last]
      exact .through found empty build

section Offer

variable {nodeId : PublicKey} {context : OffersContext} {trace : List (Event CreationSig)}
  {paths : List BlindedMessagePath} {answered : List (Channel × Except Status NodeInfo)}

def Lists (trace : List (Event CreationSig)) (channels : List Channel) : Prop :=
  trace.head? = some (.call .listActivePublicChannels (.ok channels))

theorem OfferPaths.lists {channels listed : List Channel}
    (built : OfferPaths ldk nodeId context channels trace paths) (lists : Lists trace listed) :
    channels = listed := by
  cases built with
  | oneHop found =>
    cases lists
    rfl
  | through found nonempty build =>
    cases lists
    rfl

theorem found_candidates {asked later : List (Event CreationSig)} {nodes : List PublicKey}
    {first : Event CreationSig}
    (found : Reaches (findIntroChannels ldk (answered.map Prod.fst) []) asked (.ret nodes))
    (silent : nodeReply first = none)
    (behaves : (first :: asked ++ later).filterMap nodeReply <+: answered.map Prod.snd) :
    nodes = (candidates ldk answered).take 4 := by
  have early : asked.filterMap nodeReply <+: answered.map Prod.snd := by
    rw [List.cons_append, List.filterMap_cons_none silent, List.filterMap_append] at behaves
    exact (List.prefix_append _ _).trans behaves
  rw [candidates, ← insertNodes_eq_eraseDups]
  exact findIntroChannels_chosen (by simp) found early

/-- One path for each of the first four candidates, or one path for none. -/
theorem OfferPaths.length
    (built : OfferPaths ldk nodeId context (answered.map Prod.fst) trace paths)
    (behaves : trace.filterMap nodeReply <+: answered.map Prod.snd) :
    paths.length = max 1 (min 4 (candidates ldk answered).length) := by
  cases built with
  | oneHop found =>
    have none := found_candidates found rfl behaves
    have few := congrArg List.length none
    rw [List.length_take, List.length_nil] at few
    rw [← few]
    rfl
  | @through asked built nodes order paths found nonempty build =>
    have chosen := found_candidates found rfl behaves
    have each := (buildPaths_built build).length_eq
    rw [order.2.length_eq] at each
    have many := congrArg List.length chosen
    rw [List.length_take] at many
    have positive := List.length_pos_iff.mpr nonempty
    omega

end Offer

theorem fillSlots_paths (paths : List BlindedMessagePath) (builder : OfferBuilder) :
    (fillSlots paths builder).paths = builder.paths ++ paths.take 3 := by
  rcases paths with _ | ⟨first, _ | ⟨second, _ | ⟨third, rest⟩⟩⟩ <;>
    simp [fillSlots, fillSlot, OfferBuilder.path]

theorem fillSlots_same (paths : List BlindedMessagePath) (builder : OfferBuilder) :
    (fillSlots paths builder).expandedKey = builder.expandedKey ∧
      (fillSlots paths builder).nonce = builder.nonce := by
  rcases paths with _ | ⟨first, _ | ⟨second, _ | ⟨third, rest⟩⟩⟩ <;> exact ⟨rfl, rfl⟩

/-- An offer is built with the handler's key, with the nonce its paths were made for and with
the first three of those paths. -/
theorem createOffer_paths {args : CreateOfferArgs} {expandedKey : ExpandedKey}
    {trace : List (Event CreationSig)} {offer : Offer}
    (run : Reaches (createOffer ldk args expandedKey) trace (.ret (.ok offer))) :
    ∃ nodeId nonce before made after paths builder, trace = before ++ (made ++ after) ∧
      Reaches (createReplyPathForOfferCreation ldk nodeId (.invoiceRequest nonce)) made
        (.ret (.ok paths)) ∧
      .call (.buildOffer builder) (.ok offer) ∈ after ∧ builder.expandedKey = expandedKey ∧
      builder.nonce = nonce ∧ builder.paths = paths.take 3 := by
  unfold createOffer at run
  obtain ⟨(answer : Except Status GetInfoResponse), asked, rfl, informed⟩ :=
    reaches_request_bind run
  cases answer with
  | error e => cases informed
  | ok info =>
      simp only at informed
      split at informed
      next => cases informed
      next nodeId parsed =>
        obtain ⟨nonce, drawn, rfl, creating⟩ := reaches_request_bind informed
        obtain ⟨made, after, paths, found, rest, rfl⟩ := reaches_andThen_ok creating
        obtain ⟨timed, later, expiry, reached, building, rfl⟩ := reaches_andThen_ok rest
        obtain ⟨(reply : Except Bolt12SemanticError Offer), ended, rfl, finished⟩ :=
          reaches_request_bind building
        cases reply with
        | error e => cases finished
        | ok built =>
            cases finished
            refine ⟨nodeId, nonce, [_, _], made, _, paths, _, rfl, found,
              List.mem_append_right timed List.mem_cons_self, ?_, ?_, fillSlots_paths paths _⟩
            · exact (fillSlots_same paths _).1
            · exact (fillSlots_same paths _).2

/-- An offer gets one to three paths, and none that was built is left out, exactly if
at most three nodes can introduce one. -/
theorem offerPaths_le_three_iff (ldk : Library) (nodeId : PublicKey) (context : OffersContext)
    (trace : List (Event CreationSig)) (paths : List BlindedMessagePath)
    (run : Reaches (createReplyPathForOfferCreation ldk nodeId context) trace (.ret (.ok paths)))
    (answered : List (Channel × Except Status NodeInfo))
    (lists : Lists trace (answered.map Prod.fst))
    (behaves : trace.filterMap nodeReply <+: answered.map Prod.snd) (builder : OfferBuilder) :
    (1 ≤ paths.length ∧ paths.length ≤ 3 ∧
      (fillSlots paths builder).paths = builder.paths ++ paths) ↔
        (candidates ldk answered).length ≤ 3 := by
  obtain ⟨channels, built⟩ := offerPaths_of_reaches run
  have same := built.lists lists
  subst same
  have length := built.length behaves
  rw [fillSlots_paths, List.append_cancel_left_eq, List.take_eq_self_iff]
  omega

def spellingLibrary : Library :=
  { Library.plain .twoPaths with
    publicKeyFromStr := fun text => some (.repeated (UInt8.ofNat text.length)) }

def goodNode : NodeInfo := ⟨some ⟨[], [39]⟩, [⟨9, "", ""⟩]⟩

def generous (channels : List Channel) : (request : CreationCall) → request.Reply
  | .getInfo => .ok ⟨"", []⟩
  | .randomNonce => ⟨0⟩
  | .listActivePublicChannels => .ok channels
  | .getNodeInfo _ _ => .ok goodNode
  | .iterate nodes => ⟨nodes, .refl nodes⟩
  | .oneHopPath recipient _ => some (.through recipient)
  | .messagePath nodes recipient _ => some (.through (nodes.headD recipient))
  | .expiryFromNow expiry => .reached expiry
  | .buildOffer _ => .ok .atIssuer

def generousRun (channels : List Channel) :
    List (Event CreationSig) × Prog CreationSig (Except OfferError (List BlindedMessagePath)) :=
  (createReplyPathForOfferCreation spellingLibrary (.repeated 2) (.invoiceRequest ⟨0⟩)).play
    (fun op => op.elim) (List.replicate 12 (generous channels))

theorem generousRun_reaches (channels : List Channel) :
    Reaches (createReplyPathForOfferCreation spellingLibrary (.repeated 2) (.invoiceRequest ⟨0⟩))
      (generousRun channels).1 (generousRun channels).2 :=
  Prog.play_reaches _ _ _

theorem offerPaths_le_three_two :
    ∃ trace paths,
      Reaches (createReplyPathForOfferCreation spellingLibrary (.repeated 2) (.invoiceRequest ⟨0⟩))
        trace (.ret (.ok paths)) ∧ 1 ≤ paths.length ∧ paths.length ≤ 3 := by
  have run := generousRun_reaches [⟨"a", 1⟩, ⟨"bb", 2⟩]
  have all := (offerPaths_le_three_iff spellingLibrary (.repeated 2) (.invoiceRequest ⟨0⟩) _
    [.through (.repeated 1), .through (.repeated 2)] run
    [(⟨"a", 1⟩, .ok goodNode), (⟨"bb", 2⟩, .ok goodNode)] rfl (List.prefix_refl _)
    ⟨.repeated 2, ⟨0⟩, ⟨0⟩, .regtest, none, [], none, none, none, none⟩).mpr (by decide)
  exact ⟨_, _, run, all.1, all.2.1⟩

/-- Four channels to four nodes make four paths. -/
theorem offerPaths_four :
    ¬ ∀ (trace : List (Event CreationSig)) (paths : List BlindedMessagePath)
        (builder : OfferBuilder),
      Reaches (createReplyPathForOfferCreation spellingLibrary (.repeated 2) (.invoiceRequest ⟨0⟩))
        trace (.ret (.ok paths)) →
      1 ≤ paths.length ∧ paths.length ≤ 3 ∧
        (fillSlots paths builder).paths = builder.paths ++ paths := by
  intro claim
  have run := generousRun_reaches [⟨"a", 1⟩, ⟨"bb", 2⟩, ⟨"ccc", 3⟩, ⟨"dddd", 4⟩]
  have few := (claim _ [.through (.repeated 1), .through (.repeated 2), .through (.repeated 3),
    .through (.repeated 4)] ⟨.repeated 2, ⟨0⟩, ⟨0⟩, .regtest, none, [], none, none, none, none⟩
    run).2.1
  exact absurd few (by decide)

/-! ## Where the paths of an offer begin -/

/-- The request for a path through another node. -/
def BuildsPath : Event CreationSig → Prop
  | .call (.messagePath _ _ _) _ => True
  | _ => False

theorem buildPaths_within (nodeId : PublicKey) (context : OffersContext) (nodes : List PublicKey) :
    (buildPaths nodeId context nodes).Within BuildsPath := by
  induction nodes with
  | nil => trivial
  | cons node rest ih =>
    refine Prog.within_request_bind.mpr fun reply => ⟨trivial, ?_⟩
    cases reply with
    | none => trivial
    | some path => exact ih.andThen fun _ => trivial

section Offer

variable {nodeId : PublicKey} {context : OffersContext} {trace : List (Event CreationSig)}
  {paths : List BlindedMessagePath} {answered : List (Channel × Except Status NodeInfo)}

theorem nodeReply_of_buildsPath {event : Event CreationSig} (builds : BuildsPath event) :
    nodeReply event = none := by
  unfold nodeReply
  split
  · exact builds.elim
  · rfl

theorem OfferPaths.asked {channels : List Channel}
    (built : OfferPaths ldk nodeId context channels trace paths) :
    (trace.filterMap nodeReply).length ≤ channels.length := by
  cases built with
  | oneHop found =>
    rw [List.cons_append, List.filterMap_cons_none rfl, List.filterMap_append,
      List.filterMap_cons_none rfl, List.filterMap_nil, List.append_nil]
    exact findIntroChannels_asked found
  | @through asked calls nodes order _ found _ build =>
    have silent : calls.filterMap nodeReply = [] := by
      refine List.filterMap_eq_nil_iff.mpr fun event member => ?_
      exact nodeReply_of_buildsPath
        (within_reaches (buildPaths_within nodeId context order.1) build event member)
    rw [List.cons_append, List.filterMap_cons_none rfl, List.filterMap_append,
      List.filterMap_cons_none rfl, silent, List.append_nil]
    exact findIntroChannels_asked found

end Offer

end Channels

/-! ## Where a reply path begins -/

section Peers

variable {ldk : Library} {nodeId : PublicKey} {context : OffersContext}
  {trace : List (Event Sig)} {path : BlindedMessagePath}
  {answered : List (Peer × Except Status NodeInfo)}

end Peers

end LndkFormal.Offers
