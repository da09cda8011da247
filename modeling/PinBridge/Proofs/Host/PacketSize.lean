import PinBridge.Host.Bus

/-!
# The packet size that a host tells

A handle that the host gives out carries a packet size, by which the status bytes of what is received
are told from its payload. `Configuration.endpoints` lists the endpoints of an interface in the order
of the descriptors, and `ReadsFrom` says which of them is the one that is read from: a bulk endpoint
under the read address of the interface, in the first setting with a bulk endpoint.

The size that is looked up in a configuration is that of the endpoint that comes first, whatever its
type and direction (`packetSize?_eq`). So it is that of the endpoint which is read from just where
the first one has packets of the same size (`packetSize?_tells`). A handle carries what is looked up
in the configuration that is active when the device is opened (`openDevice_yields`).

* `told_packetSize` : what is looked up in any configuration, and what a handle carries.
-/

namespace PinBridge.Host

namespace Configuration

/-- The alternate settings of an interface, of all entries that have its number. -/
def settings (c : Configuration) (number : UInt8) : List (List Endpoint) :=
  (c.filter fun i => i.number == number).flatMap (·.settings)

/-- The endpoints of an interface, in the order of the descriptors. -/
def endpoints (c : Configuration) (number : UInt8) : List Endpoint := (c.settings number).flatten

/-- The first setting of an interface that has a bulk endpoint. -/
def bulkSetting? (c : Configuration) (number : UInt8) : Option (List Endpoint) :=
  (c.settings number).find? fun endpoints => endpoints.any fun e => e.type == .bulk

/-- **The endpoint that an interface is read from**: a bulk endpoint under its read address, in the
first setting with a bulk endpoint. -/
def ReadsFrom (c : Configuration) (interface : Interface) (e : Endpoint) : Prop :=
  ∃ setting, c.bulkSetting? interface.channel.number = some setting ∧ e ∈ setting ∧
    e.type = .bulk ∧ e.address = interface.channel.inEndpoint

variable {c : Configuration} {number : UInt8} {interface : Interface} {e : Endpoint}

/-- What is found first in the settings of an interface is found at its first endpoint. -/
theorem findSome?_head? (settings : List (List Endpoint)) :
    (settings.findSome? fun endpoints => endpoints.head?.map (·.packetSize)) =
      settings.flatten.head?.map (·.packetSize) := by
  induction settings with
  | nil => rfl
  | cons setting rest ih =>
    cases setting with
    | nil => exact ih
    | cons first more => rfl

/-- **The size is that of the first endpoint**, of whatever kind. -/
theorem packetSize?_eq (c : Configuration) (number : UInt8) :
    c.packetSize? number = (c.endpoints number).head?.map (·.packetSize) := by
  unfold packetSize? endpoints settings
  induction c with
  | nil => rfl
  | cons i rest ih =>
    by_cases hnumber : i.number = number
    · rw [List.findSome?_cons, if_pos hnumber, List.filter_cons_of_pos (by simpa using hnumber),
        List.flatMap_cons, List.flatten_append, List.head?_append, findSome?_head?, ih]
      cases i.settings.flatten.head? <;> rfl
    · rw [List.findSome?_cons, if_neg hnumber, List.filter_cons_of_neg (by simpa using hnumber), ih]

/-- There is no size just where the interface has no endpoint. -/
theorem packetSize?_eq_none_iff : c.packetSize? number = none ↔ c.endpoints number = [] := by
  rw [packetSize?_eq, Option.map_eq_none_iff, List.head?_eq_none_iff]

/-- The endpoint that is read from is one of the interface. -/
theorem ReadsFrom.mem (h : c.ReadsFrom interface e) :
    e ∈ c.endpoints interface.channel.number := by
  obtain ⟨setting, hsetting, he, -, -⟩ := h
  exact List.mem_flatten.mpr ⟨setting, List.mem_of_find?_eq_some hsetting, he⟩

/-- **What a packet size tells of an interface.** It is missing just where the interface has no
endpoint, and it is that of the endpoint which is read from just where the first endpoint of the
interface has packets of that size. -/
structure Tells (c : Configuration) (interface : Interface) (size : Option Nat) : Prop where
  missing : size = none ↔ c.endpoints interface.channel.number = []
  read : ∀ e, c.ReadsFrom interface e → ∃ first rest,
    c.endpoints interface.channel.number = first :: rest ∧
    (size = some e.packetSize ↔ first.packetSize = e.packetSize)

/-- **The size that is looked up in a configuration** tells of the first endpoint. -/
theorem packetSize?_tells (c : Configuration) (interface : Interface) :
    c.Tells interface (c.packetSize? interface.channel.number) := by
  refine ⟨packetSize?_eq_none_iff, fun e he => ?_⟩
  obtain ⟨first, rest, hall⟩ := List.exists_cons_of_ne_nil (List.ne_nil_of_mem he.mem)
  refine ⟨first, rest, hall, ?_⟩
  rw [packetSize?_eq, hall]
  exact Option.some_inj

end Configuration

/-- The packet size that a device tells of an interface, by the configuration that is active. -/
def Node.packetSize? (node : Node) (number : UInt8) : Option Nat :=
  node.active?.bind fun c => c.packetSize? number

namespace Step

variable {α β : Type} {Q : α → Kernel → Prop} {R : β → Kernel → Prop}

/-- All that a step can succeed with is as it should be. -/
def Yields (Q : α → Kernel → Prop) (m : Step α) : Prop :=
  ∀ k a after, m.run k = (.ok a, after) → Q a after

theorem Yields.bind {m : Step α} {f : α → Step β} (hf : ∀ a, Yields R (f a)) :
    Yields R (m >>= f) := by
  intro k b after h
  change ExceptT.bindCont f (m.run k).1 (m.run k).2 = (.ok b, after) at h
  cases hresult : (m.run k).1 with
  | ok a =>
    rw [hresult] at h
    exact hf a _ b after h
  | error stop =>
    rw [hresult] at h
    cases h

theorem Yields.fail (e : Error) : Yields Q (fail e) := by
  intro k a after h
  cases h

/-- A handle that is given out carries the packet size that the device tells of the interface. -/
theorem handle_yields (claim : Claim) : Yields (fun handle after =>
    after.claims[handle.id]? = some claim ∧
      handle.packetSize = claim.node.packetSize? claim.interface) (handle claim) := by
  intro k handle after h
  cases h
  exact ⟨List.getElem?_concat_length, rfl⟩

/-- **Opening a device** claims the interface for the handle that is given out. -/
theorem openDevice_yields (d : Descriptor) (interface : Interface) : Yields (fun handle after =>
    ∃ node, after.claims[handle.id]? = some ⟨node, interface.channel.number⟩ ∧
      handle.packetSize = node.packetSize? interface.channel.number)
    (openDevice d interface) := by
  unfold openDevice
  refine .bind fun device => .bind fun node => .bind fun refused => ?_
  cases refused with
  | some fault => exact .bind fun _ => .bind fun _ => .fail _
  | none =>
    refine .bind fun _ k handle after h => ?_
    obtain ⟨hclaim, hsize⟩ := handle_yields ⟨node, interface.channel.number⟩ k handle after h
    exact ⟨node, hclaim, hsize⟩

end Step

variable {k after : Kernel} {d : Descriptor} {interface : Interface} {handle : Handle}

/-- A handle that the bus gives out comes from the steps that open a device. -/
theorem run_of_opened
    (opened : bus.reply (.openDevice d interface) k = (some (.ok handle), after)) :
    (Step.openDevice d interface).run k = (.ok handle, after) := by
  change Prod.map replyOf id ((Step.openDevice d interface).run k) = _ at opened
  generalize (Step.openDevice d interface).run k = outcome at opened ⊢
  obtain ⟨result, last⟩ := outcome
  obtain ⟨hreply, rfl⟩ := Prod.mk.inj opened
  rcases result with (e | _) | handle'
  · cases hreply
  · cases hreply
  · cases hreply
    rfl

/-- **The packet size of an interface.** In any configuration none is found just where the interface
has no endpoint, and otherwise it is the size of the packets of the endpoint that is read from just
where the first endpoint of the interface has packets of that size. Whenever the host opens a device,
the handle carries what is found for the interface that was claimed in the configuration that is
active, and none if that cannot be read. -/
theorem told_packetSize (c : Configuration) (interface : Interface) :
    c.Tells interface (c.packetSize? interface.channel.number) ∧
    ∀ {d : Descriptor} {handle : Handle} {k after : Kernel},
      bus.reply (.openDevice d interface) k = (some (.ok handle), after) →
      ∃ node, after.claims[handle.id]? = some ⟨node, interface.channel.number⟩ ∧
        (node.active? = none → handle.packetSize = none) ∧
        ∀ active, node.active? = some active →
          handle.packetSize = active.packetSize? interface.channel.number ∧
          active.Tells interface handle.packetSize := by
  refine ⟨c.packetSize?_tells interface, fun {d handle k after} opened => ?_⟩
  obtain ⟨node, hclaim, hsize⟩ :=
    Step.openDevice_yields d interface k handle after (run_of_opened opened)
  unfold Node.packetSize? at hsize
  refine ⟨node, hclaim, fun hnone => ?_, fun active hactive => ?_⟩
  · rw [hsize, hnone]
    rfl
  · have hfound : handle.packetSize = active.packetSize? interface.channel.number := by
      rw [hsize, hactive]
      rfl
    exact ⟨hfound, hfound ▸ active.packetSize?_tells interface⟩

namespace Sample

/-- The first interface with its two bulk endpoints, and in front of them those that are given. -/
def configuration (front : List Endpoint) : Configuration :=
  [⟨0, [front ++ [⟨0x81, 64, .bulk⟩, ⟨0x02, 64, .bulk⟩]]⟩]

/-- A host with a light board of such a configuration. -/
def device (front : List Endpoint) : Device :=
  ⟨vendorId, ProductId.board, 1, 1, 0x0600, .none,
    some ⟨0x0600, ⟨0, 0, 0⟩, [], true, configuration front⟩⟩

/-- A host with such a board. -/
def kernel (front : List Endpoint) : Kernel := ⟨some [device front], .empty, [], [], []⟩

theorem readsFrom_configuration : (configuration []).ReadsFrom .a ⟨0x81, 64, .bulk⟩ :=
  ⟨_, rfl, List.mem_cons_self, rfl, rfl⟩

end Sample

/-- Of two bulk endpoints that are alike, the one that is read from tells the size. -/
theorem told_packetSize_bulk :
    (Sample.configuration []).packetSize? Interface.a.channel.number = some 64 ∧
    ∃ handle after,
      bus.reply (.openDevice (Sample.device []).descriptor .a) (Sample.kernel []) =
        (some (.ok handle), after) ∧ handle.packetSize = some 64 := by
  have opened : ∃ handle after,
      bus.reply (.openDevice (Sample.device []).descriptor .a) (Sample.kernel []) =
        (some (.ok handle), after) ∧
      after.claims[handle.id]? = some ⟨⟨0x0600, ⟨0, 0, 0⟩, [], true, Sample.configuration []⟩, 0⟩ :=
    ⟨_, _, rfl, rfl⟩
  obtain ⟨handle, after, hopen, hclaim⟩ := opened
  obtain ⟨htells, hcarried⟩ := told_packetSize (Sample.configuration []) .a
  obtain ⟨first, rest, hall, hsize⟩ := htells.read _ Sample.readsFrom_configuration
  cases hall
  have hfound := hsize.mpr rfl
  obtain ⟨node, hnode, -, hsizes⟩ := hcarried hopen
  cases hclaim.symm.trans hnode
  exact ⟨hfound, handle, after, hopen, (hsizes _ rfl).1.trans hfound⟩

/-- An interrupt endpoint in front of them tells the size instead. -/
theorem told_packetSize_interrupt :
    (Sample.configuration [⟨0x83, 8, .interrupt⟩]).ReadsFrom .a ⟨0x81, 64, .bulk⟩ ∧
      (Sample.configuration [⟨0x83, 8, .interrupt⟩]).packetSize? Interface.a.channel.number =
        some 8 ∧ (⟨0x81, 64, .bulk⟩ : Endpoint).packetSize = 64 :=
  ⟨⟨_, rfl, List.mem_cons_of_mem _ List.mem_cons_self, rfl, rfl⟩, rfl, rfl⟩

end PinBridge.Host
