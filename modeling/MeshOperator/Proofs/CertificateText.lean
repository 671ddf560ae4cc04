import MeshOperator.Proofs.KeyPair
import MeshOperator.Proofs.ResourceKeys

/-!
Certificates in the objects of a control plane.

Five objects carry certificates, as encoded bytes: the trust anchors are the bundle that the API
server checks the webhook and the API of tap with, and three secrets hold the key pair. Decoding
gives back every text, byte for byte, since `Base64.decode?` accepts what `Base64.encode` writes
and nothing else.
-/

namespace MeshOperator

set_option autoImplicit false

/-! ## Encoded bytes -/

namespace Base64

theorem digitValue?_digit {n : Nat} (h : n < 64) : digitValue? (digit n) = some n := by
  have hall : ∀ n : Fin 64, digitValue? (digit n) = some n.val := by decide +kernel
  exact hall ⟨n, h⟩

/-- The padding is no digit. -/
theorem digit_ne_pad {n : Nat} (h : n < 64) : digit n ≠ '=' := by
  intro hpad
  have hvalue := digitValue?_digit h
  rw [hpad] at hvalue
  cases hvalue

theorem ofNat_toNat (a : UInt8) {n : Nat} (h : n = a.toNat) : UInt8.ofNat n = a := by
  rw [h, UInt8.ofNat_toNat]

theorem decode?_one (a : UInt8) : decode? (encode [a]) = some [a] := by
  have ha := a.toNat_lt
  have hbyte : UInt8.ofNat (a.toNat / 4 * 4 + a.toNat % 4 * 16 / 16) = a :=
    ofNat_toNat a (by omega)
  have hrest : a.toNat % 4 * 16 % 16 = 0 := by omega
  rw [encode, decode?, digitValue?_digit (by omega), digitValue?_digit (by omega)]
  simp only [Option.bind_eq_bind, Option.bind_some, hrest, if_true, hbyte]

theorem decode?_two (a b : UInt8) : decode? (encode [a, b]) = some [a, b] := by
  have ha := a.toNat_lt
  have hb := b.toNat_lt
  generalize hn : a.toNat * 256 + b.toNat = n
  have hjoin : (n / 1024 * 64 + n / 16 % 64) * 64 + n % 16 * 4 = n * 4 := by omega
  have hfirst : UInt8.ofNat (n * 4 / 1024) = a := ofNat_toNat a (by omega)
  have hsecond : UInt8.ofNat (n * 4 / 4 % 256) = b := ofNat_toNat b (by omega)
  have hrest : n * 4 % 4 = 0 := by omega
  rw [encode, hn, decode?]
  · rw [digitValue?_digit (by omega), digitValue?_digit (by omega), digitValue?_digit (by omega)]
    simp only [Option.bind_eq_bind, Option.bind_some, hjoin, hrest, if_true, hfirst, hsecond]
  · exact digit_ne_pad (by omega)

theorem decode?_cons (a b c : UInt8) (rest : List UInt8) :
    decode? (encode (a :: b :: c :: rest)) =
      (decode? (encode rest)).map fun bytes => a :: b :: c :: bytes := by
  have ha := a.toNat_lt
  have hb := b.toNat_lt
  have hc := c.toNat_lt
  generalize hn : (a.toNat * 256 + b.toNat) * 256 + c.toNat = n
  have hjoin : ((n / 262144 * 64 + n / 4096 % 64) * 64 + n / 64 % 64) * 64 + n % 64 = n := by
    omega
  have hfirst : UInt8.ofNat (n / 65536) = a := ofNat_toNat a (by omega)
  have hsecond : UInt8.ofNat (n / 256 % 256) = b := ofNat_toNat b (by omega)
  have hthird : UInt8.ofNat (n % 256) = c := ofNat_toNat c (by omega)
  have hlast : digit (n % 64) ≠ '=' := digit_ne_pad (by omega)
  rw [encode, hn, decode?]
  · rw [digitValue?_digit (by omega), digitValue?_digit (by omega), digitValue?_digit (by omega),
      digitValue?_digit (by omega)]
    simp only [Option.bind_eq_bind, Option.bind_some, hjoin, hfirst, hsecond, hthird]
    cases decode? (encode rest) <;> rfl
  -- a full group is not taken for one that is padded
  · exact fun _ hpad _ => hlast hpad
  · exact fun hpad _ => hlast hpad

/-- What was encoded can be decoded, whatever the number of bytes leaves of the last group. -/
theorem decode?_encode (bytes : List UInt8) : decode? (encode bytes) = some bytes := by
  induction bytes using encode.induct with
  | case1 => rfl
  | case2 a => exact decode?_one a
  | case3 a b => exact decode?_two a b
  | case4 a b c rest ih => rw [decode?_cons, ih, Option.map_some]

/-- Every character that is read as a digit is the digit of its value. -/
theorem digit_of_digitValue? {c : Char} {n : Nat} (h : digitValue? c = some n) :
    n < 64 ∧ digit n = c := by
  have hchar : ∀ k, k = c.toNat → Char.ofNat k = c := by
    rintro k rfl
    exact Char.ofNat_toNat c
  unfold digitValue? at h
  dsimp only at h
  split at h
  next hupper =>
    cases h
    refine ⟨by omega, ?_⟩
    rw [digit, if_pos (by omega)]
    exact hchar _ (by omega)
  split at h
  next hlower =>
    cases h
    refine ⟨by omega, ?_⟩
    rw [digit, if_neg (by omega), if_pos (by omega)]
    exact hchar _ (by omega)
  split at h
  next hnumber =>
    cases h
    refine ⟨by omega, ?_⟩
    rw [digit, if_neg (by omega), if_neg (by omega), if_pos (by omega)]
    exact hchar _ (by omega)
  split at h
  next hplus =>
    cases h
    exact ⟨by omega, hplus.symm⟩
  split at h
  next hslash =>
    cases h
    exact ⟨by omega, hslash.symm⟩
  cases h

/-- Only encoded bytes are decoded: no other text has the same bytes, since the bits that a padded
group leaves over have to be zero. -/
theorem encode_of_decode? {cs : List Char} {bytes : List UInt8} (h : decode? cs = some bytes) :
    encode bytes = cs := by
  induction cs using decode?.induct generalizing bytes with
  | case1 =>
    cases h
    rfl
  | case2 a b =>
    simp only [decode?, Option.bind_eq_bind, Option.bind_eq_some_iff] at h
    obtain ⟨x, hx, y, hy, h⟩ := h
    split at h
    next hrest =>
      cases h
      obtain ⟨hx, rfl⟩ := digit_of_digitValue? hx
      obtain ⟨hy, rfl⟩ := digit_of_digitValue? hy
      -- `omega` takes the zero bits from `hrest`
      have hbyte : (UInt8.ofNat (x * 4 + y / 16)).toNat = x * 4 + y / 16 :=
        UInt8.toNat_ofNat_of_lt' (show x * 4 + y / 16 < 256 by omega)
      have hfirst : (x * 4 + y / 16) / 4 = x := by omega
      have hsecond : (x * 4 + y / 16) % 4 * 16 = y := by omega
      simp only [encode, hbyte, hfirst, hsecond]
    next => cases h
  | case3 a b c hne =>
    rw [decode?] at h
    · simp only [Option.bind_eq_bind, Option.bind_eq_some_iff] at h
      obtain ⟨x, hx, y, hy, z, hz, h⟩ := h
      obtain ⟨hx, rfl⟩ := digit_of_digitValue? hx
      obtain ⟨hy, rfl⟩ := digit_of_digitValue? hy
      obtain ⟨hz, rfl⟩ := digit_of_digitValue? hz
      generalize hn : (x * 64 + y) * 64 + z = n at h
      split at h
      next hrest =>
        cases h
        have hjoin : (UInt8.ofNat (n / 1024)).toNat * 256 + (UInt8.ofNat (n / 4 % 256)).toNat =
            n / 4 := by
          simp only [UInt8.toNat_ofNat']
          omega
        have hfirst : n / 4 / 1024 = x := by omega
        have hsecond : n / 4 / 16 % 64 = y := by omega
        have hthird : n / 4 % 16 * 4 = z := by omega
        simp only [encode, hjoin, hfirst, hsecond, hthird]
      next => cases h
    · exact hne
  | case4 a b c d rest hne hne' ih =>
    rw [decode?] at h
    · simp only [Option.bind_eq_bind, Option.bind_eq_some_iff] at h
      obtain ⟨x, hx, y, hy, z, hz, w, hw, more, hmore, h⟩ := h
      obtain ⟨hx, rfl⟩ := digit_of_digitValue? hx
      obtain ⟨hy, rfl⟩ := digit_of_digitValue? hy
      obtain ⟨hz, rfl⟩ := digit_of_digitValue? hz
      obtain ⟨hw, rfl⟩ := digit_of_digitValue? hw
      cases h
      generalize hn : ((x * 64 + y) * 64 + z) * 64 + w = n
      have hjoin : ((UInt8.ofNat (n / 65536)).toNat * 256 + (UInt8.ofNat (n / 256 % 256)).toNat) *
          256 + (UInt8.ofNat (n % 256)).toNat = n := by
        simp only [UInt8.toNat_ofNat']
        omega
      have hfirst : n / 262144 = x := by omega
      have hsecond : n / 4096 % 64 = y := by omega
      have hthird : n / 64 % 64 = z := by omega
      have hfourth : n % 64 = w := by omega
      simp only [encode, hjoin, hfirst, hsecond, hthird, hfourth, ih hmore]
    · exact hne
    · exact hne'
  | case5 cs hnil hone htwo hgroup =>
    rw [decode?] at h
    · cases h
    · exact hnil
    · exact hone
    · exact htwo
    · exact hgroup

theorem decode?_eq_some_iff {cs : List Char} {bytes : List UInt8} :
    decode? cs = some bytes ↔ cs = encode bytes := by
  constructor
  · intro h
    exact (encode_of_decode? h).symm
  · rintro rfl
    exact decode?_encode bytes

/-- `ofText s` is the one text that decodes to the bytes of `s`. -/
theorem decode?_eq_some_toUTF8 {s t : String} :
    decode? t.toList = some s.toUTF8.toList ↔ t = ofText s := by
  rw [decode?_eq_some_iff, ofText]
  constructor
  · intro h
    rw [← h, String.ofList_toList]
  · rintro rfl
    exact String.toList_ofList

end Base64

/-- This is a text, the encoded bytes of another one. -/
def Json.Encodes (v : Option Json) (text : String) : Prop :=
  ∃ s, v = some (.str s) ∧ Base64.decode? s.toList = some text.toUTF8.toList

theorem Json.encodes_iff {v : Option Json} {text : String} :
    Encodes v text ↔ v = some (.str (Base64.ofText text)) := by
  constructor
  · rintro ⟨s, rfl, hs⟩
    rw [Base64.decode?_eq_some_toUTF8.1 hs]
  · rintro rfl
    exact ⟨_, rfl, Base64.decode?_eq_some_toUTF8.2 rfl⟩

theorem Json.encodes_ofText (text : String) : Encodes (some (.str (Base64.ofText text))) text :=
  encodes_iff.2 rfl

/-! ## Objects with certificates -/

section Objects

variable {m : Manifest}

/-- What clients of the webhooks are to trust. -/
def Object.webhookBundles (o : Object) : List (Option Json) :=
  (Json.items (o.at? ["webhooks"])).map (·.at? ["clientConfig", "caBundle"])

theorem Manifest.webhookBundles {w : Webhook} (h : m.content = .webhook w) :
    m.managed.object.webhookBundles = [some (.str (Base64.ofText w.trustAnchors))] := by
  simp [Object.webhookBundles, at?_object, h, Content.members, Webhook.toJson]

theorem Manifest.at?_bundle {a : ApiService} (h : m.content = .apiService a) :
    m.managed.object.at? ["spec", "caBundle"] = some (.str (Base64.ofText a.trustAnchors)) := by
  rw [at?_spec m (congrArg Content.members h)]
  simp [ApiService.toJson]

theorem Manifest.at?_data {type : Option String} {entries : StringMap}
    (h : m.content = .secret ⟨type, entries⟩) (name : String) :
    m.managed.object.at? ["data", name] =
      (entries.get? name).map fun s => .str (Base64.ofText s) := by
  simp [at?_object, h, Content.members, SecretData.members, Json.member?_texts]

theorem Manifest.encodes_pair {type : Option String} {first second a b : String}
    (hne : first ≠ second) (h : m.content = .secret ⟨type, .ofList [(first, a), (second, b)]⟩) :
    Json.Encodes (m.managed.object.at? ["data", first]) a ∧
      Json.Encodes (m.managed.object.at? ["data", second]) b := by
  have hnames : ([(first, a), (second, b)].map (·.1)).Nodup := by simp [hne]
  constructor
  · rw [at?_data h, SortedMap.get?_ofList hnames]
    simpa [Assoc.find?] using Json.encodes_ofText a
  · rw [at?_data h, SortedMap.get?_ofList hnames]
    simpa [Assoc.find?, hne.symm] using Json.encodes_ofText b

end Objects

/-- The certificates that a record gives, empty texts if it gives none. -/
def Record.certificates (r : Record) : Certificates := r.spec.certificates.getD .none

/-- The bundles for the webhook and for the API of tap are one text, the trust anchors of the record
in encoded bytes, and the secrets of the issuer, of the proxy injector and of tap have its
certificate and its key, each encoded. -/
theorem certificates_decode {r : Record} {c : Configuration} (h : Configuration.resolve r = .ok c) :
    ∃ hook api issuer injector tap : Object,
      (∀ o, Catalogue.Provides c
        (.mutatingWebhookConfiguration, "linkerd-proxy-injector-webhook-config") o ↔ o = hook) ∧
      (∀ o, Catalogue.Provides c (.apiService, "v1alpha1.tap.linkerd.io") o ↔ o = api) ∧
      (∀ o, Catalogue.Provides c (.secret, "linkerd-identity-issuer") o ↔ o = issuer) ∧
      (∀ o, Catalogue.Provides c (.secret, "linkerd-proxy-injector-tls") o ↔ o = injector) ∧
      (∀ o, Catalogue.Provides c (.secret, "linkerd-tap-tls") o ↔ o = tap) ∧
      hook.webhookBundles = [api.at? ["spec", "caBundle"]] ∧
      Json.Encodes (api.at? ["spec", "caBundle"]) r.certificates.trustAnchors ∧
      Json.Encodes (issuer.at? ["data", "crt.pem"]) r.certificates.certificate ∧
      Json.Encodes (issuer.at? ["data", "key.pem"]) r.certificates.key ∧
      (∀ served ∈ [injector, tap],
        Json.Encodes (served.at? ["data", "tls.crt"]) r.certificates.certificate ∧
        Json.Encodes (served.at? ["data", "tls.key"]) r.certificates.key) := by
  have hown : c.certificates = r.certificates := Configuration.certificates_of_resolve h
  rw [← hown]
  have hcontrolPlane : ∀ s ∈ [Catalogue.ProxyInjector.subsystem, Catalogue.Tap.subsystem,
      Catalogue.Identity.subsystem], s ∈ Catalogue.controlPlane ++ Catalogue.reserved := by
    simp [Catalogue.controlPlane]
  simp only [List.forall_mem_cons] at hcontrolPlane
  obtain ⟨hinjector, htap, hidentity, -⟩ := hcontrolPlane
  obtain ⟨hcertificate, hkey⟩ := Manifest.encodes_pair (m := Catalogue.Identity.secret c)
    (by decide) rfl
  have hbundle := Manifest.at?_bundle (m := Catalogue.Tap.apiService c) rfl
  refine ⟨(Catalogue.ProxyInjector.webhookConfiguration c).managed.object,
    (Catalogue.Tap.apiService c).managed.object,
    (Catalogue.Identity.secret c).managed.object,
    (Catalogue.ProxyInjector.secret c).managed.object,
    (Catalogue.Tap.secret c).managed.object,
    Catalogue.provides_always "mutating-webhook-configuration" hinjector
      (by simp [Catalogue.ProxyInjector.subsystem]) rfl,
    Catalogue.provides_always "api-service" htap
      (by simp [Catalogue.Tap.subsystem]) rfl,
    Catalogue.provides_always "secret" hidentity
      (by simp [Catalogue.Identity.subsystem]) rfl,
    Catalogue.provides_always "secret" hinjector
      (by simp [Catalogue.ProxyInjector.subsystem]) rfl,
    Catalogue.provides_always "secret" htap
      (by simp [Catalogue.Tap.subsystem]) rfl,
    ?_, ?_, hcertificate, hkey, ?_⟩
  · rw [Manifest.webhookBundles (m := Catalogue.ProxyInjector.webhookConfiguration c) rfl, hbundle]
  · rw [hbundle]
    exact Json.encodes_ofText c.certificates.trustAnchors
  · simp only [List.forall_mem_cons, List.not_mem_nil, false_imp_iff, implies_true, and_true]
    exact ⟨Manifest.encodes_pair (m := Catalogue.ProxyInjector.secret c) (by decide) rfl,
      Manifest.encodes_pair (m := Catalogue.Tap.secret c) (by decide) rfl⟩

/-- The key of the record, four bytes in three characters, is what tap's secret decodes to. -/
theorem certificates_decode_certified :
    ∃ c tap s, Configuration.resolve (.certified "kéy" "") = .ok c ∧
      Catalogue.Provides c (.secret, "linkerd-tap-tls") tap ∧
      tap.at? ["data", "tls.key"] = some (.str s) ∧
      Base64.decode? s.toList = some [107, 195, 169, 121] := by
  obtain ⟨c, hc⟩ := Configuration.resolve_ok (r := .certified "kéy" "") rfl rfl
  obtain ⟨_, _, _, _, tap, -, -, -, -, htap, -, -, -, -, hserved⟩ := certificates_decode hc
  obtain ⟨-, s, hs, hdecoded⟩ := hserved tap (by simp)
  refine ⟨c, tap, s, hc, (htap tap).2 rfl, hs, hdecoded.trans ?_⟩
  decide +kernel

end MeshOperator
