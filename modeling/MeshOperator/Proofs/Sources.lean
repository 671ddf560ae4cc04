import MeshOperator.Proofs.ResourceNames

/-!
What the productions of the catalogue read.

A configuration has settings that all subsystems share, a key pair, and a block of settings for
each workload. `Source` names them. A production that reads a source makes the same of every other
configuration that keeps it, and `sources` says for each production of the catalogue which source
that is: the key pair goes into three secrets, each block into its own workload, and everything
else is made from what is shared. Nothing reads the name of the record.
-/

namespace MeshOperator

set_option autoImplicit false

/-- The parts of a control plane that have a block of settings of their own. -/
inductive Part where
  | controller
  | destination
  | heartbeat
  | identity
  | prometheus
  | proxyInjector
  | tap
  | web
  deriving DecidableEq, Repr

namespace Part

open Catalogue

def subsystem : Part → Subsystem
  | .controller => Controller.subsystem
  | .destination => Destination.subsystem
  | .heartbeat => Heartbeat.subsystem
  | .identity => Identity.subsystem
  | .prometheus => Prometheus.subsystem
  | .proxyInjector => ProxyInjector.subsystem
  | .tap => Tap.subsystem
  | .web => Web.subsystem

/-- The production of what runs: a deployment, or the job of the heartbeat. -/
def workload : Part → Production
  | .controller => .always "deployment" Controller.deployment
  | .destination => .always "deployment" Destination.deployment
  | .heartbeat => .present "cron-job" Heartbeat.cronJob
  | .identity => .always "deployment" Identity.deployment
  | .prometheus => .always "deployment" Prometheus.deployment
  | .proxyInjector => .always "deployment" ProxyInjector.deployment
  | .tap => .always "deployment" Tap.deployment
  | .web => .always "deployment" Web.deployment

end Part

namespace Configuration

/-- The other configuration with what this one shares among all subsystems. -/
def sharing (c other : Configuration) : Configuration :=
  { other with
    ns := c.ns
    version := c.version
    logLevel := c.logLevel
    imagePullPolicy := c.imagePullPolicy
    certificates := { other.certificates with trustAnchors := c.certificates.trustAnchors }
    autoInjectionNamespaces := c.autoInjectionNamespaces
    owner := c.owner }

def withKeyPair (key certificate : String) (c : Configuration) : Configuration :=
  { c with certificates := { c.certificates with key := key, certificate := certificate } }

/-- The configuration with the block of this part from the other one. -/
def taking (part : Part) (c other : Configuration) : Configuration :=
  match part with
  | .controller => { c with controller := other.controller }
  | .destination => { c with destination := other.destination }
  | .heartbeat => { c with heartbeat := other.heartbeat }
  | .identity => { c with identity := other.identity }
  | .prometheus => { c with prometheus := other.prometheus }
  | .proxyInjector => { c with proxyInjector := other.proxyInjector }
  | .tap => { c with tap := other.tap }
  | .web => { c with web := other.web }

end Configuration

/-! ## Sources -/

/-- What a production can read of a configuration beyond the settings that are shared. -/
inductive Source where
  | shared
  | keyPair
  | settings (part : Part)

/-- The other configuration with what this one has in the source. -/
def Source.keep (source : Source) (c other : Configuration) : Configuration :=
  match source with
  | .shared => c.sharing other
  | .keyPair => { c.sharing other with certificates := c.certificates }
  | .settings part => (c.sharing other).taking part c

/-- Configurations that agree on the source have the same made of them. -/
def Production.Reads (p : Production) (source : Source) : Prop :=
  ∀ c other, p.build (source.keep c other) = p.build c

section Sources

variable {p : Production} {source : Source} {c : Configuration}

theorem Source.keep_withKeyPair (h : source ≠ .keyPair) (key certificate : String) :
    source.keep c (c.withKeyPair key certificate) = c.withKeyPair key certificate := by
  cases source with
  | shared => rfl
  | keyPair => exact absurd rfl h
  | settings part => cases part <;> rfl

theorem Source.keep_taking {part : Part} (h : source ≠ .settings part) (other : Configuration) :
    source.keep c (c.taking part other) = c.taking part other := by
  cases source with
  | shared => cases part <;> rfl
  | keyPair => cases part <;> rfl
  | settings own =>
    cases own <;> cases part <;> first
      | rfl
      | exact absurd rfl h

theorem Production.Reads.withKeyPair (hp : p.Reads source) (h : source ≠ .keyPair)
    (key certificate : String) : p.build (c.withKeyPair key certificate) = p.build c := by
  rw [← Source.keep_withKeyPair h, hp]

theorem Production.Reads.taking {part : Part} (hp : p.Reads source) (h : source ≠ .settings part)
    (other : Configuration) : p.build (c.taking part other) = p.build c := by
  rw [← Source.keep_taking h, hp]

end Sources

/-! ## The catalogue -/

namespace Catalogue

def keyPairSecrets : List Production := [
  .always "secret" Identity.secret,
  .always "secret" ProxyInjector.secret,
  .always "secret" Tap.secret]

/-- The production of the subsystem is one of those that read the source. -/
def Feeds (source : Source) (s : Subsystem) (p : Production) : Prop :=
  match source with
  | .shared => p.Reads .shared
  | .keyPair => p ∈ keyPairSecrets
  | .settings part => s = part.subsystem ∧ p = part.workload

/-- What the productions read, subsystem by subsystem. -/
def sources : List (List Source) := [
  [.shared, .shared, .shared, .shared, .settings .controller, .shared],
  [.shared, .shared, .shared, .settings .destination, .shared],
  [.shared, .shared, .shared, .settings .heartbeat],
  [.shared, .shared, .shared, .keyPair, .settings .identity, .shared],
  [.shared, .shared, .shared, .shared, .settings .prometheus, .shared],
  [.shared, .shared, .shared, .keyPair, .settings .proxyInjector, .shared, .shared],
  [.shared, .shared, .shared, .shared, .shared, .shared, .shared, .settings .web, .shared],
  [.shared, .shared, .shared, .shared, .shared, .shared, .keyPair, .settings .tap, .shared,
    .shared],
  [.shared, .shared, .shared],
  [.shared],
  [.shared]]

theorem feeds_catalogue :
    List.Forall₂ (fun s row => List.Forall₂ (fun p source => Feeds source s p) s.productions row)
      (controlPlane ++ reserved) sources := by
  repeat' apply List.Forall₂.cons
  all_goals first
    | exact .nil
    | exact fun _ _ => rfl
    | exact ⟨rfl, rfl⟩
    | simp [Feeds, keyPairSecrets]

theorem feeds_of_mem {s : Subsystem} (hs : s ∈ controlPlane ++ reserved) {p : Production}
    (hp : p ∈ s.productions) : ∃ source, Feeds source s p := by
  obtain ⟨row, -, hrow⟩ := exists_of_forall₂ feeds_catalogue hs
  obtain ⟨source, -, hsource⟩ := exists_of_forall₂ hrow hp
  exact ⟨source, hsource⟩

theorem reads_of_feeds {source : Source} {s : Subsystem} {p : Production}
    (h : Feeds source s p) : p.Reads source := by
  cases source with
  | shared => exact h
  | keyPair =>
    simp only [Feeds, keyPairSecrets, List.mem_cons, List.not_mem_nil, or_false] at h
    obtain rfl | rfl | rfl := h <;> exact fun _ _ => rfl
  | settings part =>
    obtain ⟨-, rfl⟩ := h
    cases part <;> exact fun _ _ => rfl

/-- Only the secrets with the key pair change with it. -/
theorem build_withKeyPair {s : Subsystem} (hs : s ∈ controlPlane ++ reserved) {p : Production}
    (hp : p ∈ s.productions) (key certificate : String) (c : Configuration) :
    p.build (c.withKeyPair key certificate) = p.build c ∨ p ∈ keyPairSecrets := by
  obtain ⟨source, hsource⟩ := feeds_of_mem hs hp
  have hreads := reads_of_feeds hsource
  cases source with
  | keyPair => exact .inr hsource
  | shared => exact .inl (hreads.withKeyPair nofun key certificate)
  | settings part => exact .inl (hreads.withKeyPair nofun key certificate)

/-- Only the workload of a part changes with its block. -/
theorem build_taking {s : Subsystem} (hs : s ∈ controlPlane ++ reserved) {p : Production}
    (hp : p ∈ s.productions) (part : Part) (c other : Configuration) :
    p.build (c.taking part other) = p.build c ∨ s = part.subsystem ∧ p = part.workload := by
  obtain ⟨source, hsource⟩ := feeds_of_mem hs hp
  have hreads := reads_of_feeds hsource
  cases source with
  | shared => exact .inl (hreads.taking nofun other)
  | keyPair => exact .inl (hreads.taking nofun other)
  | settings own =>
    by_cases h : own = part
    · exact .inr (h ▸ hsource)
    · exact .inl (hreads.taking (fun heq => h (Source.settings.inj heq)) other)

end Catalogue

end MeshOperator
