import Mathlib.Data.List.Forall2
import NatDiscovery.Config.Decode
import NatDiscovery.Config.Encode
import NatDiscovery.Proofs.Json.Written
import NatDiscovery.Proofs.Text.Address

/-!
# `Proofs.Config.Spelling` — all spellings of a configuration are read as it

A record has many spellings (`Record.Spells`): an object with its fields in any order and other
members anywhere between them, fields left out whose value is the default, or an array of all values
in order; and so again each record in it. The one that is written is among them (`spells_toJson`).

Reading is shown for records at large. An object is taken apart by name, so neither order nor other
members matter (`valuesOf_perm`), and both layouts come to the same list of values, in the order
of the fields and none for a field left out (`Record.Spells.exists_values`). What is left for each
record is to read its values.

## Contents
- `Field`, `Lists`, `Record.Spells`: the spellings of a record
- `Record.Spells.exists_values`: the values that are read of them
- `Duration.Spells`, `PortRange.Spells`, …, `Config.Spells`: the records of a configuration
- `Config.ofJson?_of_spells`, `Config.ofString?_of_spells`: all spellings
- `Config.ofString?_write`: the written one
-/

namespace NatDiscovery

/-! ## Spellings of a record -/

/-- A member of an object: its name, when that spells whole characters, and its value. -/
abbrev Member := Option (List Char) × Json

/-- A field with its content: how the value may be spelled, and when the field may be left out. -/
structure Field where
  name : String
  Spelling : Json → Prop
  Optional : Prop

/-- The members list fields in their order, each with a spelling of its value, or leave it out where
that is allowed. -/
inductive Lists : List Field → List Member → Prop where
  | nil : Lists [] []
  | given {f : Field} {fs : List Field} {value : Json} {members : List Member}
      (hvalue : f.Spelling value) (h : Lists fs members) :
      Lists (f :: fs) ((some f.name.toList, value) :: members)
  | omitted {f : Field} {fs : List Field} {members : List Member} (hoptional : f.Optional)
      (h : Lists fs members) : Lists (f :: fs) members

/-- A member that is none of the fields. -/
def IsOther (fields : List Field) (m : Member) : Prop :=
  ∃ name, m.1 = some name ∧ ∀ f ∈ fields, f.name.toList ≠ name

/-- The value spells a record with these contents: as an object, in any order and with other members
where the record allows them, or as the array of all values. -/
inductive Record.Spells (r : Record) (fields : List Field) : Json → Prop where
  | object {known others members : List Member} (hknown : Lists fields known)
      (hothers : ∀ m ∈ others, IsOther fields m) (hallowed : others ≠ [] → r.othersAllowed = true)
      (hmembers : members.Perm (known ++ others)) : Spells r fields (.object members)
  | array {items : List Json} (hitems : List.Forall₂ Field.Spelling fields items) :
      Spells r fields (.array items)

/-- What is read of a field fits its content: a spelling of the value, or nothing where the field
may be left out. -/
def Field.Fits (f : Field) : Option Json → Prop
  | none => f.Optional
  | some value => f.Spelling value

/-! ## The values of a spelling -/

section Values

open Record (valuesOf member?)

theorem valuesOf_append (members others : List Member) (name : String) :
    valuesOf (members ++ others) name = valuesOf members name ++ valuesOf others name :=
  List.filterMap_append

/-- The values of a name keep their number in any order of the members. -/
theorem valuesOf_perm {members others : List Member} (h : members.Perm others) (name : String) :
    (valuesOf members name).Perm (valuesOf others name) :=
  h.filterMap _

theorem valuesOf_eq_nil {members : List Member} {name : String}
    (h : ∀ m ∈ members, m.1 ≠ some name.toList) : valuesOf members name = [] := by
  rw [valuesOf, List.filterMap_eq_nil_iff]
  intro m hm
  rw [if_neg (h m hm)]

theorem name_mem_of_lists {fields : List Field} {members : List Member} (h : Lists fields members) :
    ∀ m ∈ members, ∃ f ∈ fields, m.1 = some f.name.toList := by
  induction h with
  | nil =>
      intro m hm
      cases hm
  | given hvalue h ih =>
      intro m hm
      rcases List.mem_cons.mp hm with rfl | hm
      · exact ⟨_, List.mem_cons_self .., rfl⟩
      · obtain ⟨f, hf, hname⟩ := ih m hm
        exact ⟨f, List.mem_cons_of_mem _ hf, hname⟩
  | omitted hoptional h ih =>
      intro m hm
      obtain ⟨f, hf, hname⟩ := ih m hm
      exact ⟨f, List.mem_cons_of_mem _ hf, hname⟩

theorem valuesOf_of_new {fields : List Field} {members : List Member} (h : Lists fields members)
    {name : String} (hnew : name ∉ fields.map Field.name) : valuesOf members name = [] := by
  apply valuesOf_eq_nil
  intro m hm hname
  obtain ⟨f, hf, hname'⟩ := name_mem_of_lists h m hm
  have heq : name = f.name :=
    String.toList_injective (Option.some.inj (hname.symm.trans hname'))
  exact hnew (heq ▸ List.mem_map_of_mem hf)

/-- Listed members hold at most one value of a field, and it fits. -/
theorem valuesOf_of_lists {fields : List Field} {members : List Member} (h : Lists fields members)
    (hnames : (fields.map Field.name).Nodup) :
    ∀ f ∈ fields, ∃ v : Option Json, valuesOf members f.name = v.toList ∧ f.Fits v := by
  induction h with
  | nil =>
      intro f hf
      cases hf
  | @given g gs value members hvalue h ih =>
      obtain ⟨hnew, hnames⟩ := List.nodup_cons.mp hnames
      intro f hf
      have hcons : valuesOf ((some g.name.toList, value) :: members) f.name =
          valuesOf [(some g.name.toList, value)] f.name ++ valuesOf members f.name :=
        valuesOf_append [_] members f.name
      rcases List.mem_cons.mp hf with rfl | hf
      · refine ⟨some value, ?_, hvalue⟩
        -- Its name is new, so no later member has it.
        rw [hcons, valuesOf_of_new h hnew]
        simp [valuesOf]
      · have hne : g.name.toList ≠ f.name.toList := by
          intro heq
          exact hnew (String.toList_injective heq ▸ List.mem_map_of_mem hf)
        obtain ⟨v, hv, hfits⟩ := ih hnames f hf
        refine ⟨v, ?_, hfits⟩
        rw [hcons, hv]
        simp [valuesOf, hne]
  | @omitted g gs members hoptional h ih =>
      obtain ⟨hnew, hnames⟩ := List.nodup_cons.mp hnames
      intro f hf
      rcases List.mem_cons.mp hf with rfl | hf
      · exact ⟨none, valuesOf_of_new h hnew, hoptional⟩
      · exact ih hnames f hf

/-- So do they in any order, with other members between them. -/
theorem exists_member?_of_perm {fields : List Field} {known others members : List Member}
    (hknown : Lists fields known) (hothers : ∀ m ∈ others, IsOther fields m)
    (hmembers : members.Perm (known ++ others)) (hnames : (fields.map Field.name).Nodup) :
    ∀ f ∈ fields, ∃ v, member? members f.name = some v ∧ f.Fits v := by
  intro f hf
  obtain ⟨v, hv, hfits⟩ := valuesOf_of_lists hknown hnames f hf
  have hnone : valuesOf others f.name = [] := by
    apply valuesOf_eq_nil
    intro m hm hname
    obtain ⟨name, hm, hother⟩ := hothers m hm
    exact hother f hf (Option.some.inj (hname.symm.trans hm))
  -- A list of at most one value has one order.
  have hperm := valuesOf_perm hmembers f.name
  rw [valuesOf_append, hnone, List.append_nil, hv] at hperm
  refine ⟨v, ?_, hfits⟩
  cases v with
  | none =>
      have hvalues : valuesOf members f.name = [] := List.perm_nil.mp hperm
      rw [member?, hvalues]
  | some value =>
      have hvalues : valuesOf members f.name = [value] := List.perm_singleton.mp hperm
      rw [member?, hvalues]

theorem exists_mapM_eq {members : List Member} {fields : List Field}
    (h : ∀ f ∈ fields, ∃ v, member? members f.name = some v ∧ f.Fits v) :
    ∃ vs, (fields.map Field.name).mapM (member? members) = some vs ∧
      List.Forall₂ Field.Fits fields vs := by
  induction fields with
  | nil => exact ⟨[], rfl, .nil⟩
  | cons f fields ih =>
      obtain ⟨v, hv, hfits⟩ := h f (List.mem_cons_self ..)
      have htail : ∀ g ∈ fields, ∃ v, member? members g.name = some v ∧ g.Fits v := by
        intro g hg
        exact h g (List.mem_cons_of_mem _ hg)
      obtain ⟨vs, hvs, hall⟩ := ih htail
      refine ⟨v :: vs, ?_, .cons hfits hall⟩
      rw [List.map_cons, List.mapM_cons, hv, hvs]
      rfl

/-- **Whatever the layout, the values of the fields are read in order.** -/
theorem Record.Spells.exists_values {r : Record} {fields : List Field} {j : Json}
    (h : r.Spells fields j) (hfields : fields.map Field.name = r.fields) (hnodup : r.fields.Nodup) :
    ∃ vs, r.values? j = some vs ∧ List.Forall₂ Field.Fits fields vs := by
  cases h with
  | @object known others members hknown hothers hallowed hmembers =>
      -- Every member is a field, or one of the others where those are allowed.
      have hnames : members.all (fun m => r.allowsName m.1) = true := by
        rw [List.all_eq_true]
        intro m hm
        rcases List.mem_append.mp (hmembers.subset hm) with hm | hm
        · obtain ⟨f, hf, hname⟩ := name_mem_of_lists hknown m hm
          have hmem : f.name ∈ r.fields := hfields ▸ List.mem_map_of_mem hf
          rw [hname, allowsName, Bool.or_eq_true]
          apply Or.inr
          exact List.any_eq_true.mpr ⟨f.name, hmem, decide_eq_true rfl⟩
        · obtain ⟨name, hname, -⟩ := hothers m hm
          rw [hname, allowsName, hallowed (List.ne_nil_of_mem hm), Bool.true_or]
      obtain ⟨vs, hvs, hfits⟩ :=
        exists_mapM_eq (exists_member?_of_perm hknown hothers hmembers (hfields ▸ hnodup))
      refine ⟨vs, ?_, hfits⟩
      rw [values?, if_pos hnames, ← hfields, hvs]
  | @array items hitems =>
      have hlength : items.length = r.fields.length := by
        rw [← hfields, List.length_map, hitems.length_eq]
      refine ⟨items.map some, ?_, ?_⟩
      · rw [values?, if_pos (Nat.le_of_eq hlength), hlength, Nat.sub_self]
        show some (items.map some ++ []) = _
        rw [List.append_nil]
      · exact List.forall₂_map_right_iff.mpr hitems

end Values

/-! ## Values that are no records -/

/-- A value that may be missing is null, or spelled as what is there. -/
def SpellsOption {α : Type} (spells : α → Json → Prop) : Option α → Json → Prop
  | none, j => j = .null
  | some x, j => spells x j

theorem decodeOption_of_spells {α : Type} {spells : α → Json → Prop} {decode : Json → Option α}
    (hdecode : ∀ x j, spells x j → j ≠ .null ∧ decode j = some x) {o : Option α} {j : Json}
    (h : SpellsOption spells o j) : decodeOption decode j = some o := by
  cases o with
  | none =>
      obtain rfl := h
      rfl
  | some x =>
      obtain ⟨hnull, hx⟩ := hdecode x j h
      rw [decodeOption, hx]
      · rfl
      · exact hnull

theorem decodeStrings_ofStrings (ss : List String) : decodeStrings (.ofStrings ss) = some ss := by
  show (ss.map Json.ofString).mapM decodeString = some ss
  induction ss with
  | nil => rfl
  | cons s ss ih =>
      have hstring : decodeString (.ofString s) = some s := by
        show some (String.ofList s.toList) = some s
        rw [String.ofList_toList]
      rw [List.map_cons, List.mapM_cons, hstring, ih]
      rfl

theorem decodePort_encodePort (p : Port) : decodePort (encodePort p) = some p := by
  show (if p.toNat < 65536 then some p.toNat else none).map UInt16.ofNat = some p
  rw [if_pos p.toNat_lt]
  show some (UInt16.ofNat p.toNat) = some p
  rw [UInt16.ofNat_toNat]

theorem decodeIp_encodeIp (ip : IpAddr) : decodeIp (encodeIp ip) = some ip :=
  IpAddr.ofText?_toText ip

theorem ofParts?_toNat (d : Duration) : Duration.ofParts? d.secs.toNat d.nanos.toNat = some d := by
  obtain ⟨secs, nanos, hnanos⟩ := d
  have hlt : nanos.toNat < 1000000000 := UInt32.lt_iff_toNat_lt.mp hnanos
  have hdiv : nanos.toNat / 1000000000 = 0 := Nat.div_eq_of_lt hlt
  have hsecs : secs.toNat < UInt64.size := secs.toNat_lt
  simp only [Duration.ofParts?, hdiv, Nat.add_zero, if_pos hsecs, Nat.mod_eq_of_lt hlt,
    UInt64.ofNat_toNat, UInt32.ofNat_toNat]

/-- A field that is needed is there. -/
theorem Field.Fits.exists_value {f : Field} {v : Option Json} (h : f.Fits v)
    (hneeded : ¬f.Optional) : ∃ j, v = some j ∧ f.Spelling j := by
  cases v with
  | none => exact absurd h hneeded
  | some j => exact ⟨j, rfl, h⟩

/-- A field is read as its content when its spellings are, and the default is the content where it
may be left out. -/
theorem orDefault_of_fits {α : Type} {f : Field} {default x : α} {decode : Json → Option α}
    (hoptional : f.Optional → default = x) (hdecode : ∀ j, f.Spelling j → decode j = some x)
    {v : Option Json} (h : f.Fits v) : orDefault default decode v = some x := by
  cases v with
  | none => exact congrArg some (hoptional h)
  | some j => exact hdecode j h

/-! ## The records of a configuration -/

/-- A port is its number. -/
def Port.Spells (p : Port) : Json → Prop :=
  (· = encodePort p)

/-- An address is its text. -/
def IpAddr.Spells (ip : IpAddr) : Json → Prop :=
  (· = encodeIp ip)

/-- A span of time is seconds and nanoseconds, and both are needed. -/
def Duration.Spells (d : Duration) : Json → Prop :=
  durationRecord.Spells [⟨"secs", (· = .natural d.secs.toNat), False⟩,
    ⟨"nanos", (· = .natural d.nanos.toNat), False⟩]

/-- A port range is its two ports, and both are needed. -/
def PortRange.Spells (r : PortRange) : Json → Prop :=
  portRangeRecord.Spells [⟨"start", Port.Spells r.start, False⟩,
    ⟨"end", Port.Spells r.stop, False⟩]

/-- Of an include and an exclude list those that are empty may be left out. -/
def Filter.Spells (f : Filter String) : Json → Prop :=
  filterRecord.Spells [⟨"includes", (· = .ofStrings f.includes), f.includes = []⟩,
    ⟨"excludes", (· = .ofStrings f.excludes), f.excludes = []⟩]

/-- Of a time budget the spans that are the default may be left out. -/
def Timeouts.Spells (t : Timeouts) : Json → Prop :=
  let default : Timeouts := {}
  timeoutsRecord.Spells [⟨"initial", t.initial.Spells, t.initial = default.initial⟩,
    ⟨"grace", t.grace.Spells, t.grace = default.grace⟩,
    ⟨"probe", t.probe.Spells, t.probe = default.probe⟩]

/-- The fields of a configuration. Each may be left out when it has the default. -/
def Config.fields (c : Config) : List Field :=
  let default : Config := {}
  [⟨"stun_servers", (· = .ofStrings c.stunServers), c.stunServers = default.stunServers⟩,
    ⟨"udp_port", SpellsOption Port.Spells c.udpPort, c.udpPort = default.udpPort⟩,
    ⟨"port_range", SpellsOption PortRange.Spells c.portRange, c.portRange = default.portRange⟩,
    ⟨"enable_loopback_candidate", (· = .bool c.enableLoopbackCandidate),
      c.enableLoopbackCandidate = default.enableLoopbackCandidate⟩,
    ⟨"interfaces", c.interfaces.Spells, c.interfaces = default.interfaces⟩,
    ⟨"ips", c.ips.Spells, c.ips = default.ips⟩,
    ⟨"node_ip", SpellsOption IpAddr.Spells c.nodeIp, c.nodeIp = default.nodeIp⟩,
    ⟨"node_ip_auto_generated", (· = .bool c.nodeIpAutoGenerated),
      c.nodeIpAutoGenerated = default.nodeIpAutoGenerated⟩,
    ⟨"use_external_ip", (· = .bool c.useExternalIp), c.useExternalIp = default.useExternalIp⟩,
    ⟨"timeouts", c.timeouts.Spells, c.timeouts = default.timeouts⟩]

/-- The value spells the configuration. -/
def Config.Spells (c : Config) : Json → Prop :=
  configRecord.Spells c.fields

theorem decodeDuration_of_spells {d : Duration} {j : Json} (h : d.Spells j) :
    decodeDuration j = some d := by
  obtain ⟨vs, hvs, hfits⟩ := h.exists_values rfl (by decide)
  obtain _ | ⟨hsecs, _ | ⟨hnanos, _ | _⟩⟩ := hfits
  obtain ⟨_, rfl, rfl⟩ := hsecs.exists_value id
  obtain ⟨_, rfl, rfl⟩ := hnanos.exists_value id
  have hs : decodeNatural UInt64.size (.natural d.secs.toNat) = some d.secs.toNat :=
    if_pos d.secs.toNat_lt
  have hn : decodeNatural UInt32.size (.natural d.nanos.toNat) = some d.nanos.toNat :=
    if_pos d.nanos.toNat_lt
  simp only [decodeDuration, hvs, hs, hn, ofParts?_toNat, Option.bind_eq_bind, Option.bind_some]

theorem decodePortRange_of_spells {r : PortRange} {j : Json} (h : r.Spells j) :
    decodePortRange j = some r := by
  obtain ⟨vs, hvs, hfits⟩ := h.exists_values rfl (by decide)
  obtain _ | ⟨hstart, _ | ⟨hstop, _ | _⟩⟩ := hfits
  obtain ⟨_, rfl, rfl⟩ := hstart.exists_value id
  obtain ⟨_, rfl, rfl⟩ := hstop.exists_value id
  simp only [decodePortRange, hvs, decodePort_encodePort, Option.bind_eq_bind, Option.bind_some,
    Option.pure_def]

theorem decodeFilter_of_spells {f : Filter String} {j : Json} (h : f.Spells j) :
    decodeFilter j = some f := by
  obtain ⟨vs, hvs, hfits⟩ := h.exists_values rfl (by decide)
  obtain _ | @⟨_, includes, _, _, hincludes, _ | @⟨_, excludes, _, _, hexcludes, _ | _⟩⟩ := hfits
  have hi : orDefault [] decodeStrings includes = some f.includes :=
    orDefault_of_fits Eq.symm (fun _ hj => hj ▸ decodeStrings_ofStrings _) hincludes
  have he : orDefault [] decodeStrings excludes = some f.excludes :=
    orDefault_of_fits Eq.symm (fun _ hj => hj ▸ decodeStrings_ofStrings _) hexcludes
  simp only [decodeFilter, hvs, hi, he, Option.bind_eq_bind, Option.bind_some, Option.pure_def]

theorem decodeTimeouts_of_spells {t : Timeouts} {j : Json} (h : t.Spells j) :
    decodeTimeouts j = some t := by
  obtain ⟨vs, hvs, hfits⟩ := h.exists_values rfl (by decide)
  obtain _ | @⟨_, initial, _, _, hinitial, _ | @⟨_, grace, _, _, hgrace,
    _ | @⟨_, probe, _, _, hprobe, _ | _⟩⟩⟩ := hfits
  have hi : orDefault (.ofSecs 5) decodeDuration initial = some t.initial :=
    orDefault_of_fits Eq.symm (fun _ => decodeDuration_of_spells) hinitial
  have hg : orDefault (.ofSecs 1) decodeDuration grace = some t.grace :=
    orDefault_of_fits Eq.symm (fun _ => decodeDuration_of_spells) hgrace
  have hp : orDefault (.ofSecs 3) decodeDuration probe = some t.probe :=
    orDefault_of_fits Eq.symm (fun _ => decodeDuration_of_spells) hprobe
  simp only [decodeTimeouts, hvs, hi, hg, hp, Option.bind_eq_bind, Option.bind_some,
    Option.pure_def]

/-- No record is null. -/
theorem Record.Spells.ne_null {r : Record} {fields : List Field} {j : Json}
    (h : r.Spells fields j) : j ≠ .null := by
  rintro rfl
  cases h

section Options

variable {j : Json}

theorem decodeOption_port {o : Option Port} (h : SpellsOption Port.Spells o j) :
    decodeOption decodePort j = some o := by
  apply decodeOption_of_spells _ h
  rintro p _ rfl
  exact ⟨Json.noConfusion, decodePort_encodePort p⟩

theorem decodeOption_ip {o : Option IpAddr} (h : SpellsOption IpAddr.Spells o j) :
    decodeOption decodeIp j = some o := by
  apply decodeOption_of_spells _ h
  rintro ip _ rfl
  exact ⟨Json.noConfusion, decodeIp_encodeIp ip⟩

theorem decodeOption_portRange {o : Option PortRange} (h : SpellsOption PortRange.Spells o j) :
    decodeOption decodePortRange j = some o := by
  apply decodeOption_of_spells _ h
  intro r j hr
  exact ⟨Record.Spells.ne_null hr, decodePortRange_of_spells hr⟩

end Options

/-- **Every spelling of a configuration is read as it.** -/
theorem Config.ofJson?_of_spells {c : Config} {j : Json} (h : c.Spells j) :
    Config.ofJson? j = some c := by
  obtain ⟨vs, hvs, hfits⟩ := h.exists_values rfl (by decide)
  -- One value for each field of the record, and no more.
  obtain _ | @⟨_, stunServers, _, _, hstunServers, hfits⟩ := hfits
  obtain _ | @⟨_, udpPort, _, _, hudpPort, hfits⟩ := hfits
  obtain _ | @⟨_, portRange, _, _, hportRange, hfits⟩ := hfits
  obtain _ | @⟨_, loopback, _, _, hloopback, hfits⟩ := hfits
  obtain _ | @⟨_, interfaces, _, _, hinterfaces, hfits⟩ := hfits
  obtain _ | @⟨_, ips, _, _, hips, hfits⟩ := hfits
  obtain _ | @⟨_, nodeIp, _, _, hnodeIp, hfits⟩ := hfits
  obtain _ | @⟨_, autoGenerated, _, _, hautoGenerated, hfits⟩ := hfits
  obtain _ | @⟨_, external, _, _, hexternal, hfits⟩ := hfits
  obtain _ | @⟨_, timeouts, _, _, htimeouts, _ | _⟩ := hfits
  have hbool (b : Bool) : decodeBool (.bool b) = some b := rfl
  have stunServers_eq : orDefault [] decodeStrings stunServers = some c.stunServers :=
    orDefault_of_fits Eq.symm (fun _ hj => hj ▸ decodeStrings_ofStrings _) hstunServers
  have udpPort_eq : orDefault none (decodeOption decodePort) udpPort = some c.udpPort :=
    orDefault_of_fits Eq.symm (fun _ => decodeOption_port) hudpPort
  have portRange_eq : orDefault none (decodeOption decodePortRange) portRange = some c.portRange :=
    orDefault_of_fits Eq.symm (fun _ => decodeOption_portRange) hportRange
  have loopback_eq : orDefault false decodeBool loopback = some c.enableLoopbackCandidate :=
    orDefault_of_fits Eq.symm (fun _ hj => hj ▸ hbool _) hloopback
  have interfaces_eq : orDefault {} decodeFilter interfaces = some c.interfaces :=
    orDefault_of_fits Eq.symm (fun _ => decodeFilter_of_spells) hinterfaces
  have ips_eq : orDefault {} decodeFilter ips = some c.ips :=
    orDefault_of_fits Eq.symm (fun _ => decodeFilter_of_spells) hips
  have nodeIp_eq : orDefault none (decodeOption decodeIp) nodeIp = some c.nodeIp :=
    orDefault_of_fits Eq.symm (fun _ => decodeOption_ip) hnodeIp
  have autoGenerated_eq : orDefault false decodeBool autoGenerated = some c.nodeIpAutoGenerated :=
    orDefault_of_fits Eq.symm (fun _ hj => hj ▸ hbool _) hautoGenerated
  have external_eq : orDefault false decodeBool external = some c.useExternalIp :=
    orDefault_of_fits Eq.symm (fun _ hj => hj ▸ hbool _) hexternal
  have timeouts_eq : orDefault {} decodeTimeouts timeouts = some c.timeouts :=
    orDefault_of_fits Eq.symm (fun _ => decodeTimeouts_of_spells) htimeouts
  simp only [ofJson?, hvs, stunServers_eq, udpPort_eq, portRange_eq, loopback_eq, interfaces_eq,
    ips_eq, nodeIp_eq, autoGenerated_eq, external_eq, timeouts_eq, Option.bind_eq_bind,
    Option.bind_some, Option.pure_def]

/-! ## The spelling that is written -/

/-- An object of the listed fields alone. -/
theorem Record.Spells.of_lists {r : Record} {fields : List Field} {members : List Member}
    (h : Lists fields members) : r.Spells fields (.object members) := by
  have hothers : ∀ m ∈ ([] : List Member), IsOther fields m := by
    intro m hm
    cases hm
  refine .object h hothers ?_ ?_
  · intro hne
    exact absurd rfl hne
  · rw [List.append_nil]

theorem Port.spells_encodePort (p : Port) : Port.Spells p (encodePort p) := rfl

theorem IpAddr.spells_encodeIp (ip : IpAddr) : ip.Spells (encodeIp ip) := rfl

theorem Duration.spells_toJson (d : Duration) : d.Spells d.toJson :=
  .of_lists (.given rfl (.given rfl .nil))

theorem PortRange.spells_toJson (r : PortRange) : r.Spells r.toJson :=
  .of_lists (.given rfl (.given rfl .nil))

theorem Filter.spells_toJson (f : Filter String) : f.Spells f.toJson :=
  .of_lists (.given rfl (.given rfl .nil))

theorem Timeouts.spells_toJson (t : Timeouts) : t.Spells t.toJson :=
  .of_lists (.given t.initial.spells_toJson (.given t.grace.spells_toJson
    (.given t.probe.spells_toJson .nil)))

theorem spellsOption_encodeOption {α : Type} {spells : α → Json → Prop} {encode : α → Json}
    (h : ∀ x, spells x (encode x)) (o : Option α) :
    SpellsOption spells o (encodeOption encode o) := by
  cases o with
  | none => rfl
  | some x => exact h x

theorem Config.spells_toJson (c : Config) : c.Spells c.toJson := by
  have hudpPort := spellsOption_encodeOption Port.spells_encodePort c.udpPort
  have hportRange := spellsOption_encodeOption PortRange.spells_toJson c.portRange
  have hnodeIp := spellsOption_encodeOption IpAddr.spells_encodeIp c.nodeIp
  apply Record.Spells.of_lists
  exact .given rfl (.given hudpPort (.given hportRange (.given rfl
    (.given c.interfaces.spells_toJson (.given c.ips.spells_toJson (.given hnodeIp (.given rfl
      (.given rfl (.given c.timeouts.spells_toJson .nil)))))))))

theorem proper_ofStrings (ss : List String) : (Json.ofStrings ss).Proper := by
  show Json.ItemsProper (ss.map Json.ofString)
  induction ss with
  | nil => trivial
  | cons s ss ih => exact ⟨trivial, ih⟩

theorem proper_encodeOption {α : Type} {encode : α → Json} (h : ∀ x, (encode x).Proper)
    (o : Option α) : (encodeOption encode o).Proper := by
  cases o with
  | none => trivial
  | some x => exact h x

theorem Filter.proper_toJson (f : Filter String) : f.toJson.Proper :=
  ⟨proper_ofStrings _, proper_ofStrings _, trivial⟩

theorem Config.proper_toJson (c : Config) : c.toJson.Proper := by
  have hport (p : Port) : (encodePort p).Proper := trivial
  have hip (ip : IpAddr) : (encodeIp ip).Proper := trivial
  have hrange (r : PortRange) : r.toJson.Proper := ⟨hport _, hport _, trivial⟩
  have hduration (d : Duration) : d.toJson.Proper := ⟨trivial, trivial, trivial⟩
  have htimeouts : c.timeouts.toJson.Proper :=
    ⟨hduration _, hduration _, hduration _, trivial⟩
  exact ⟨proper_ofStrings _, proper_encodeOption hport _, proper_encodeOption hrange _, trivial,
    c.interfaces.proper_toJson, c.ips.proper_toJson, proper_encodeOption hip _, trivial, trivial,
    htimeouts, trivial⟩

theorem Config.ofString?_eq {text : String} {j : Json} (h : Json.ofText? text.toList = some j) :
    Config.ofString? text = Config.ofJson? j := by
  rw [ofString?, h]
  rfl

theorem ofText?_write {j : Json} (h : j.Proper) : Json.ofText? j.write.toList = some j := by
  rw [Json.write, String.toList_ofList, Json.ofText?_toText h]

/-- **A configuration is read back from the text that is written for it.** -/
theorem Config.ofString?_write (c : Config) : Config.ofString? c.write = some c := by
  rw [write, ofString?_eq (ofText?_write c.proper_toJson)]
  exact ofJson?_of_spells c.spells_toJson

/-- **Every spelling of a configuration is read as it**: the value, any text that spells the value,
    whatever its blanks and escapes, and so the text that is written for it. -/
theorem Config.ofString?_of_spells (c : Config) {j : Json} (h : c.Spells j) :
    Config.ofJson? j = some c ∧
    (∀ text : String, Json.ofText? text.toList = some j → Config.ofString? text = some c) ∧
    (j.Proper → Config.ofString? j.write = some c) := by
  have hread := ofJson?_of_spells h
  refine ⟨hread, ?_, ?_⟩
  · intro text htext
    rw [ofString?_eq htext, hread]
  · intro hproper
    rw [ofString?_eq (ofText?_write hproper), hread]

section Sample

/-- A configuration that differs from the default in most records. -/
def sampleConfig : Config where
  stunServers := ["stun.example.org:3478"]
  portRange := some ⟨50000, 60000⟩
  interfaces := { excludes := ["docker0"] }
  nodeIp := some (.v4 ⟨203, 0, 113, 1⟩)
  useExternalIp := true
  timeouts := { grace := .ofMillis 250 }

/-- Its fields, some defaults left out. The port range and the time budget hold a member that is no
    field; the filter and the span are arrays. -/
def sampleMembers : List (String × Json) :=
  [("stun_servers", .ofStrings ["stun.example.org:3478"]),
    ("udp_port", .null),
    ("port_range", .ofFields [("end", .natural 60000), ("start", .natural 50000),
      ("note", .object [])]),
    ("interfaces", .array [.ofStrings [], .ofStrings ["docker0"]]),
    ("node_ip", .ofString "203.0.113.1"),
    ("use_external_ip", .bool true),
    ("timeouts", .ofFields [("jitter", .number ['-', '1', '.', '5']),
      ("grace", .array [.natural 0, .natural 250000000])])]

/-- The fields from the last to the first, behind a member that is no field. -/
def sampleObject : Json :=
  .ofFields (("comment", .null) :: sampleMembers.reverse)

/-- All values, in arrays. -/
def sampleArray : Json :=
  .array [.ofStrings ["stun.example.org:3478"], .null, .array [.natural 50000, .natural 60000],
    .bool false, .array [.ofStrings [], .ofStrings ["docker0"]],
    .array [.ofStrings [], .ofStrings []], .ofString "203.0.113.1", .bool false, .bool true,
    .array [.array [.natural 5, .natural 0], .array [.natural 0, .natural 250000000],
      .array [.natural 3, .natural 0]]]

theorem isOther_of_ne {fields : List Field} {name : String} {value : Json}
    (h : ∀ f ∈ fields, f.name ≠ name) : ∀ m ∈ [(some name.toList, value)], IsOther fields m := by
  intro m hm
  obtain rfl := List.mem_singleton.mp hm
  exact ⟨name.toList, rfl, fun f hf heq => h f hf (String.toList_injective heq)⟩

theorem Filter.spells_array (f : Filter String) :
    f.Spells (.array [.ofStrings f.includes, .ofStrings f.excludes]) :=
  .array (.cons rfl (.cons rfl .nil))

theorem Duration.spells_array (d : Duration) :
    d.Spells (.array [.natural d.secs.toNat, .natural d.nanos.toNat]) :=
  .array (.cons rfl (.cons rfl .nil))

theorem spells_sampleObject : sampleConfig.Spells sampleObject := by
  have hrange : PortRange.Spells ⟨50000, 60000⟩ (.ofFields [("end", .natural 60000),
      ("start", .natural 50000), ("note", .object [])]) :=
    .object (.given rfl (.given rfl .nil)) (isOther_of_ne (by decide)) (fun _ => rfl) (.swap ..)
  have htimeouts : sampleConfig.timeouts.Spells (.ofFields
      [("jitter", .number ['-', '1', '.', '5']),
        ("grace", .array [.natural 0, .natural 250000000])]) :=
    .object (.omitted rfl (.given (Duration.spells_array (.ofMillis 250)) (.omitted rfl .nil)))
      (isOther_of_ne (by decide)) (fun _ => rfl) (.swap ..)
  have hinterfaces := Filter.spells_array ⟨[], ["docker0"]⟩
  have hknown : Lists sampleConfig.fields (sampleMembers.map fun m => (some m.1.toList, m.2)) :=
    .given rfl (.given rfl (.given hrange (.omitted rfl (.given hinterfaces
      (.omitted rfl (.given rfl (.omitted rfl (.given rfl (.given htimeouts .nil)))))))))
  have hcomment : ∀ m ∈ [(some "comment".toList, Json.null)], IsOther sampleConfig.fields m :=
    isOther_of_ne (by decide)
  refine .object hknown hcomment (fun _ => rfl) ?_
  -- The fields are turned round again, and the comment goes behind them.
  apply List.Perm.trans (.cons _ ((List.reverse_perm sampleMembers).map _))
  exact (List.perm_append_singleton _ _).symm

theorem spells_sampleArray : sampleConfig.Spells sampleArray := by
  have hrange : PortRange.Spells ⟨50000, 60000⟩ (.array [.natural 50000, .natural 60000]) :=
    .array (.cons rfl (.cons rfl .nil))
  have htimeouts : sampleConfig.timeouts.Spells (.array [.array [.natural 5, .natural 0],
      .array [.natural 0, .natural 250000000], .array [.natural 3, .natural 0]]) :=
    .array (.cons (Duration.spells_array (.ofSecs 5)) (.cons (Duration.spells_array (.ofMillis 250))
      (.cons (Duration.spells_array (.ofSecs 3)) .nil)))
  have hinterfaces := Filter.spells_array ⟨[], ["docker0"]⟩
  have hips := Filter.spells_array ⟨[], []⟩
  exact .array (.cons rfl (.cons rfl (.cons hrange (.cons rfl (.cons hinterfaces (.cons hips
    (.cons rfl (.cons rfl (.cons rfl (.cons htimeouts .nil))))))))))

theorem proper_sampleObject : sampleObject.Proper := by
  have hdigit {c : Char} (hc : c.isDigit = true) : Json.IsDigits [c] :=
    ⟨List.cons_ne_nil c [], List.forall_mem_singleton.mpr hc⟩
  have hjitter : (Json.number ['-', '1', '.', '5']).Proper :=
    ⟨⟨['-'], ['1'], ['.', '5'], [], .inr rfl, .digits (hdigit rfl) (by decide),
      .digits (hdigit rfl), .none⟩, rfl, rfl⟩
  have hinterfaces : (Json.array [.ofStrings [], .ofStrings ["docker0"]]).Proper :=
    ⟨proper_ofStrings _, proper_ofStrings _, trivial⟩
  exact ⟨trivial, ⟨hjitter, ⟨trivial, trivial, trivial⟩, trivial⟩, trivial, trivial, hinterfaces,
    ⟨trivial, trivial, trivial, trivial⟩, trivial, proper_ofStrings _, trivial⟩

/-- Both are read as the sample, the object from its text. -/
theorem Config.ofString?_of_spells_sample :
    Config.ofString? sampleObject.write = some sampleConfig ∧
    Config.ofJson? sampleArray = some sampleConfig := by
  obtain ⟨-, -, hobject⟩ := ofString?_of_spells sampleConfig spells_sampleObject
  obtain ⟨harray, -, -⟩ := ofString?_of_spells sampleConfig spells_sampleArray
  exact ⟨hobject proper_sampleObject, harray⟩

/-- Blanks and escapes make no difference, and values are left out behind the last one given. -/
example : Config.ofString? " [[\"\\u0065.org\"], null,\t[1, 2]]\n" =
    some { stunServers := ["e.org"], portRange := some ⟨1, 2⟩ } := by
  decide +kernel

end Sample

end NatDiscovery
