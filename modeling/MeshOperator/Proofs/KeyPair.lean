import MeshOperator.Proofs.QuietPass
import MeshOperator.Proofs.Sources

/-!
The key pair of a record.

Of all objects of the catalogue only three secrets are made from the certificate and the key of a
record, and only their data changes with them. A pass does not let on anything about them either:
on stores that nobody disturbs, records that differ only in the key pair have their passes end the
same way, with the same status.
-/

namespace MeshOperator

set_option autoImplicit false

/-! ## Secrets -/

/-- The objects differ at most in this member of their bodies. -/
structure Object.SameBut (name : String) (o o' : Object) : Prop where
  type : o'.type = o.type
  metadata : o'.metadata = o.metadata
  body : ∀ other, other ≠ name → o'.body.find? other = o.body.find? other

theorem Content.find?_secret (type : Option String) (a b : StringMap) {name : String}
    (hname : name ≠ "data") :
    (Content.secret ⟨type, b⟩).body.find? name = (Content.secret ⟨type, a⟩).body.find? name := by
  have hskip : compare name "data" ≠ .eq := by simpa using hname
  simp only [body, members, SecretData.members, Body.find?, Assoc.find?, beq_iff_eq, hskip,
    if_false]

theorem Content.find?_data (type : Option String) (entries : StringMap) :
    (Content.secret ⟨type, entries⟩).body.find? "data" =
      some (.obj (entries.entries.map fun e => (e.1, .str (Base64.ofText e.2)))) := rfl

namespace Catalogue

def keyPairNames : List String :=
  ["linkerd-identity-issuer", "linkerd-proxy-injector-tls", "linkerd-tap-tls"]

theorem data_issuer (c : Configuration) :
    (Identity.secret c).managed.object.body.find? "data" = some (.obj [
      ("crt.pem", .str (Base64.ofText c.certificates.certificate)),
      ("key.pem", .str (Base64.ofText c.certificates.key))]) := by
  have hentries : ∀ certificate key : String,
      (SortedMap.ofList [("crt.pem", certificate), ("key.pem", key)]).entries =
        [("crt.pem", certificate), ("key.pem", key)] :=
    fun _ _ => SortedMap.entries_ofList ((Assoc.ascending_iff_keys _).2 (by simp +decide))
  refine (Content.find?_data _ _).trans ?_
  rw [hentries]
  rfl

/-- Under another key pair the secrets keep all but their data. -/
theorem sameBut_keyPairSecrets {p : Production} (hp : p ∈ keyPairSecrets) (key certificate : String)
    (c : Configuration) :
    ∃ name ∈ keyPairNames, ∃ d d', p.build c = .ok d ∧
      p.build (c.withKeyPair key certificate) = .ok d' ∧
      d.key = ⟨"v1", "Secret", some c.ns, name⟩ ∧ d'.key = d.key ∧
      d.object.SameBut "data" d'.object := by
  simp only [keyPairSecrets, List.mem_cons, List.not_mem_nil, or_false] at hp
  obtain rfl | rfl | rfl := hp
  · exact ⟨"linkerd-identity-issuer", by simp [keyPairNames], _, _, rfl, rfl, rfl, rfl, rfl, rfl,
      fun _ => Content.find?_secret _ _ _⟩
  · exact ⟨"linkerd-proxy-injector-tls", by simp [keyPairNames], _, _, rfl, rfl, rfl, rfl, rfl, rfl,
      fun _ => Content.find?_secret _ _ _⟩
  · exact ⟨"linkerd-tap-tls", by simp [keyPairNames], _, _, rfl, rfl, rfl, rfl, rfl, rfl,
      fun _ => Content.find?_secret _ _ _⟩

end Catalogue

/-! ## Records -/

/-- The records differ at most in certificate and key. -/
structure Record.SameButKeyPair (r r' : Record) : Prop where
  metadata : r'.metadata = r.metadata
  spec : { r'.spec with certificates := r.spec.certificates } = r.spec
  trustAnchors : (r'.spec.certificates.getD .none).trustAnchors =
    (r.spec.certificates.getD .none).trustAnchors
  status : r'.status = r.status

namespace Configuration

/-- The certificates of a record go into its configuration and nowhere else. -/
theorem resolve_certificates (r : Record) (certificates : Option Certificates) :
    resolve { r with spec := { r.spec with certificates := certificates } } =
      (resolve r).map fun c => { c with certificates := certificates.getD .none } := by
  unfold resolve
  cases r.metadata.name with
  | none => rfl
  | some name =>
    cases r.metadata.ns with
    | none => rfl
    | some ns =>
      have hdefault : ∀ own : Option Certificates,
          defaulted "selfSignedCertificates" (own.or (some .none)) = pure (own.getD .none) := by
        intro own
        cases own <;> rfl
      have hmap : ∀ {ε α β : Type} (f : α → β) (x : Except ε α), x.map f = f <$> x :=
        fun _ _ => rfl
      simp only [ofDeclaration, Declaration.withDefaults, hdefault, pure_bind, hmap, map_bind,
        map_pure]
      rfl

theorem certificates_of_resolve {r : Record} {c : Configuration} (h : resolve r = .ok c) :
    c.certificates = r.spec.certificates.getD .none := by
  have hsame := resolve_certificates r r.spec.certificates
  have hr : resolve r = (Except.ok c).map fun c =>
      { c with certificates := r.spec.certificates.getD .none } := hsame.trans (by rw [h])
  exact congrArg Configuration.certificates (Except.ok.inj (h.symm.trans hr))

/-- The configurations of such records differ at most in certificate and key, too. -/
theorem resolve_sameButKeyPair {r r' : Record} (h : r.SameButKeyPair r') :
    ∃ key certificate, resolve r' = (resolve r).map (withKeyPair key certificate) := by
  let own := r'.spec.certificates.getD .none
  have hmetadata : resolve r' =
      resolve { r with spec := { r.spec with certificates := r'.spec.certificates } } := by
    rw [← h.spec]
    simp only [resolve, Record.asOwner, h.metadata]
  refine ⟨own.key, own.certificate, ?_⟩
  rw [hmetadata, resolve_certificates]
  cases hresolve : resolve r with
  | error e => rfl
  | ok c =>
    have hown : own = ⟨c.certificates.trustAnchors, own.key, own.certificate⟩ := by
      rw [certificates_of_resolve hresolve, ← h.trustAnchors]
    exact congrArg (fun certificates => Except.ok { c with certificates := certificates }) hown

end Configuration

/-! ## Passes -/

/-- The production makes the same of both configurations, or at least something of each. -/
def Production.AgreesOn (c c' : Configuration) (p : Production) : Prop :=
  p.build c' = p.build c ∨ ∃ d d', p.build c = .ok d ∧ p.build c' = .ok d'

theorem Production.tryAll_congr {c c' : Configuration} {ps : List Production}
    (h : ∀ p ∈ ps, p.AgreesOn c c') : tryAll c' ps = tryAll c ps := by
  induction ps with
  | nil => rfl
  | cons p rest ih =>
    obtain ⟨hp, hrest⟩ := List.forall_mem_cons.1 h
    rw [tryAll, tryAll, ih hrest]
    rcases hp with hsame | ⟨d, d', hd, hd'⟩
    · rw [hsame]
    · rw [hd, hd']

theorem Subsystem.tryAll_congr {c c' : Configuration} {subsystems : List Subsystem}
    (h : ∀ s ∈ subsystems, ∀ p ∈ s.productions, p.AgreesOn c c') :
    tryAll c' subsystems = tryAll c subsystems := by
  induction subsystems with
  | nil => rfl
  | cons s rest ih =>
    obtain ⟨hs, hrest⟩ := List.forall_mem_cons.1 h
    rw [tryAll, tryAll, Production.tryAll_congr hs, ih hrest]

theorem ending_withKeyPair (key certificate : String) (c : Configuration) :
    Subsystem.ending (c.withKeyPair key certificate) Catalogue.controlPlane =
      Subsystem.ending c Catalogue.controlPlane := by
  have hagrees : ∀ s ∈ Catalogue.controlPlane, ∀ p ∈ s.productions,
      p.AgreesOn c (c.withKeyPair key certificate) := by
    intro s hs p hp
    refine (Catalogue.build_withKeyPair (List.mem_append_left _ hs) hp key certificate c).imp_right
      fun hsecret => ?_
    obtain ⟨_, -, d, d', hd, hd', -⟩ := Catalogue.sameBut_keyPairSecrets hsecret key certificate c
    exact ⟨d, d', hd, hd'⟩
  rw [Subsystem.ending, Subsystem.tryAll_congr hagrees, Subsystem.ending]

theorem Record.SameButKeyPair.ending {r r' : Record} (h : r.SameButKeyPair r') :
    r'.ending Catalogue.controlPlane = r.ending Catalogue.controlPlane := by
  have hversion : r'.spec.version = r.spec.version :=
    (congrArg Declaration.version h.spec :)
  obtain ⟨key, certificate, hresolve⟩ := Configuration.resolve_sameButKeyPair h
  simp only [Record.ending, h.metadata, h.status, hversion, hresolve, phase, hasFinalizer]
  cases Configuration.resolve r with
  | error e => rfl
  | ok c =>
    simp only [Except.map, ending_withKeyPair]
    rfl

/-- What a store has under this key, read as a record. -/
def Memory.recordAt (key : ObjectKey) (m : Memory) : Option (Except StoreError Record) :=
  (m.objects.get? key).map Record.ofObject

def Memory.statusAt (key : ObjectKey) (m : Memory) :
    Option (Except StoreError (Option RecordStatus)) :=
  (m.recordAt key).map fun read => read.map (·.status)

/-- What is stored differs at most in certificate and key, if it is a record. -/
inductive AlikeButKeyPair :
    Option (Except StoreError Record) → Option (Except StoreError Record) → Prop
  | missing : AlikeButKeyPair none none
  | unreadable (e e' : StoreError) : AlikeButKeyPair (some (.error e)) (some (.error e'))
  | record {r r' : Record} (h : r.SameButKeyPair r') :
    AlikeButKeyPair (some (.ok r)) (some (.ok r'))

section Passes

variable {m m' : Memory} {key : ObjectKey} {r : Record}

theorem Memory.recordAt_eq_ok : m.recordAt key = some (.ok r) ↔ Record.StoredAs m key r := by
  simp [recordAt, Record.StoredAs]

/-- On a quiet store a default pass ends the way the stored record says. -/
theorem default_pass_ends (hm : m.Reachable) (hq : m.Quiet) (hkey : key.type = Record.type)
    (hstored : m.recordAt key = some (.ok r)) :
    ∃ m', (reconcilePass (Catalogue.controlPlane.map Component.ofSubsystem) key).run.run
        Memory.answer m = ((r.ending Catalogue.controlPlane).1, m') ∧
      m'.statusAt key = some (.ok (r.ending Catalogue.controlPlane).2) := by
  obtain ⟨m', written, hrun, hwritten, hstatus⟩ :=
    pass_ends hm hq hkey within_controlPlane (Memory.recordAt_eq_ok.1 hstored)
  refine ⟨m', hrun, ?_⟩
  rw [Memory.statusAt, Memory.recordAt_eq_ok.2 hwritten, ← hstatus]
  rfl

/-- Passes over such records end the same way and leave the same status. -/
theorem AlikeButKeyPair.pass (halike : AlikeButKeyPair (m.recordAt key) (m'.recordAt key))
    (hm : m.Reachable) (hm' : m'.Reachable) (hq : m.Quiet) (hq' : m'.Quiet)
    (hkey : key.type = Record.type) :
    let pass := reconcilePass (Catalogue.controlPlane.map Component.ofSubsystem) key
    ∃ result m₁ m₁', pass.run.run Memory.answer m = (result, m₁) ∧
      pass.run.run Memory.answer m' = (result, m₁') ∧ m₁'.statusAt key = m₁.statusAt key := by
  intro pass
  let components := Catalogue.controlPlane.map Component.ofSubsystem
  generalize hread : m.recordAt key = read at halike
  generalize hread' : m'.recordAt key = read' at halike
  cases halike with
  | missing =>
    have hrun := Halts.pass_none hq (Option.map_eq_none_iff.1 hread) components
    have hrun' := Halts.pass_none hq' (Option.map_eq_none_iff.1 hread') components
    exact ⟨_, m, m', hrun, hrun', by rw [Memory.statusAt, Memory.statusAt, hread, hread']⟩
  | unreadable e e' =>
    obtain ⟨o, hget, ho⟩ := Option.map_eq_some_iff.1 hread
    obtain ⟨o', hget', ho'⟩ := Option.map_eq_some_iff.1 hread'
    -- all objects that cannot be read fail to with the same error
    cases Record.ofObject_error ho
    cases Record.ofObject_error ho'
    have hrun := Halts.pass_some hq hget (.unreadable ho) components
    have hrun' := Halts.pass_some hq' hget' (.unreadable ho') components
    exact ⟨_, m, m', hrun, hrun', by rw [Memory.statusAt, Memory.statusAt, hread, hread']⟩
  | @record r r' h =>
    obtain ⟨m₁, hrun, hstatus⟩ := default_pass_ends hm hq hkey hread
    obtain ⟨m₁', hrun', hstatus'⟩ := default_pass_ends hm' hq' hkey hread'
    rw [h.ending] at hrun' hstatus'
    exact ⟨_, m₁, m₁', hrun, hrun', hstatus'.trans hstatus.symm⟩

end Passes

/-- The key pair of a record stays where it belongs:

* of all productions, those of the reserved subsystems included, only three secrets change with it:
  they keep their keys, and everything but their data;
* on quiet stores whose records with this key differ at most in it, default passes end with the same
  result, and leave the same phase and message. It does not matter what else the stores hold. -/
theorem key_pair_confined :
    (∀ (c : Configuration) (key certificate : String),
      ∀ s ∈ Catalogue.controlPlane ++ Catalogue.reserved, ∀ p ∈ s.productions,
        p.build (c.withKeyPair key certificate) = p.build c ∨
        ∃ name ∈ Catalogue.keyPairNames, ∃ d d', p.build c = .ok d ∧
          p.build (c.withKeyPair key certificate) = .ok d' ∧
          d.key = ⟨"v1", "Secret", some c.ns, name⟩ ∧ d'.key = d.key ∧
          d.object.SameBut "data" d'.object) ∧
    ∀ (m m' : Memory) (key : ObjectKey), m.Reachable → m'.Reachable → m.Quiet → m'.Quiet →
      key.type = Record.type → AlikeButKeyPair (m.recordAt key) (m'.recordAt key) →
        let pass := reconcilePass (Catalogue.controlPlane.map Component.ofSubsystem) key
        ∃ result m₁ m₁', pass.run.run Memory.answer m = (result, m₁) ∧
          pass.run.run Memory.answer m' = (result, m₁') ∧ m₁'.statusAt key = m₁.statusAt key := by
  refine ⟨fun c key certificate s hs p hp => ?_, fun m m' key hm hm' hq hq' hkey halike => ?_⟩
  · exact (Catalogue.build_withKeyPair hs hp key certificate c).imp_right fun hsecret =>
      Catalogue.sameBut_keyPairSecrets hsecret key certificate c
  · exact halike.pass hm hm' hq hq' hkey

/-- A record with a key pair of its own. -/
def Record.certified (key certificate : String) : Record :=
  { plain none with spec := { (plain none).spec with
      certificates := some ⟨"anchors", key, certificate⟩ } }

/-- The issuer's secret changes with the key pair, the pass does not. -/
theorem key_pair_confined_certified :
    let key := (Record.plain none).key
    let old := Record.certified "old" "old certificate"
    let new := Record.certified "new" "new certificate"
    let pass := reconcilePass (Catalogue.controlPlane.map Component.ofSubsystem) key
    let secret := Production.always "secret" Catalogue.Identity.secret
    (∃ c d d', Configuration.resolve old = .ok c ∧
      Configuration.resolve new = .ok (c.withKeyPair "new" "new certificate") ∧
      secret.build c = .ok d ∧ secret.build (c.withKeyPair "new" "new certificate") = .ok d' ∧
      d'.object.body.find? "data" ≠ d.object.body.find? "data" ∧
      d.object.SameBut "data" d'.object) ∧
    ∃ result m₁ m₁', pass.run.run Memory.answer (.ofRecord old) = (result, m₁) ∧
      pass.run.run Memory.answer (.ofRecord new) = (result, m₁') ∧
      m₁'.statusAt key = m₁.statusAt key := by
  intro key old new pass secret
  obtain ⟨hobjects, hpasses⟩ := key_pair_confined
  constructor
  · obtain ⟨c, hc, hc', hkey⟩ : ∃ c, Configuration.resolve old = .ok c ∧
        Configuration.resolve new = .ok (c.withKeyPair "new" "new certificate") ∧
        c.certificates.key = "old" := ⟨_, rfl, rfl, rfl⟩
    have hsubsystem :
        Catalogue.Identity.subsystem ∈ Catalogue.controlPlane ++ Catalogue.reserved := by
      simp [Catalogue.controlPlane]
    have hsecret : secret ∈ Catalogue.Identity.subsystem.productions := by
      simp [Catalogue.Identity.subsystem, secret]
    have htexts : Base64.ofText "new" ≠ Base64.ofText "old" := by decide +kernel
    let other := c.withKeyPair "new" "new certificate"
    have hchanged : (Catalogue.Identity.secret other).managed.object.body.find? "data" ≠
        (Catalogue.Identity.secret c).managed.object.body.find? "data" := by
      rw [Catalogue.data_issuer, Catalogue.data_issuer, hkey]
      simp [other, Configuration.withKeyPair, htexts]
    rcases hobjects c "new" "new certificate" _ hsubsystem _ hsecret with
      hsame | ⟨name, -, d, d', hd, hd', -, -, hbut⟩
    · exact absurd (congrArg (fun d => d.object.body.find? "data") (Except.ok.inj hsame)) hchanged
    · refine ⟨c, d, d', hc, hc', hd, hd', ?_, hbut⟩
      cases hd
      cases hd'
      exact hchanged
  · have hread : ∀ key certificate : String,
        (Memory.ofRecord (.certified key certificate)).recordAt (Record.plain none).key =
          some (.ok ((Record.certified key certificate).inserted (.empty .epoch))) :=
      fun key certificate => Memory.recordAt_eq_ok.2 (Record.storedAs_ofRecord rfl)
    have halike : AlikeButKeyPair ((Memory.ofRecord old).recordAt key)
        ((Memory.ofRecord new).recordAt key) := by
      rw [hread, hread]
      exact .record ⟨rfl, rfl, rfl, rfl⟩
    exact hpasses _ _ key (Memory.reachable_ofRecord _) (Memory.reachable_ofRecord _)
      ⟨rfl, fun _ => rfl⟩ ⟨rfl, fun _ => rfl⟩ rfl halike

end MeshOperator
