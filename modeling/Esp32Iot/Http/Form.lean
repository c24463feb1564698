import Esp32Iot.CString

/-!
# Form fields of a request

`parse_http_request` and `parse_http_request2` (`HttpServer/esp32iot_http_server.c`) take the value
of a form field out of a request: from the first occurrence of the key, wherever that is, up to
the next `&` or the end, without the key and the character after it.

Building a form and taking a field out of it are inverse to each other as long as no value before
the field contains the field's name. `paramOf_form_iff` says so for any form whose names do not
contain one another, and `setupForms_roundtrip_iff` for the two forms of the device;
`password_taken_from_ssid` is a WiFi form that loses its password.
-/

namespace Esp32Iot

open CStr (lit)

/-! ## The parsers -/

/-- Why a parser delivers no value. -/
inductive FieldError
  /-- `Key: %s not found.`, code 1: the output is left as it is -/
  | notFound
  /-- an array size wraps below zero, and the copy loop runs out of the arrays -/
  | overrun
  deriving DecidableEq

/-- The array `param` of both parsers. The terminators of `tmp_param` and `param` are written one
cell behind these arrays and are taken to be there when the strings are read. -/
def paramOf (request key : CStr) : Except FieldError Bytes :=
  match request.strstr key with
  | none => .error .notFound
  | some paramStart =>
      -- `tmp_param`, without the terminator that is put behind it
      let tmpParam := paramStart.upTo (byte '&')
      -- `sizeof(param)`: strings are shorter than 2^32, so the `size_t` difference wraps exactly
      -- when it is negative
      let size : Int := tmpParam.length - key.length - 1
      if size < 0 then .error .overrun
      else .ok ((tmpParam.drop (key.length + 1)).take size.toNat)

/-- `parse_http_request`: the string that the last loop writes from `value[0]` on. -/
def parseHttpRequest (request key : CStr) : Except FieldError CStr :=
  (paramOf request key).map fun param => CStr.ofBytes (param ++ [0])

/-- `parse_http_request2`: the string that `sprintf` writes into the allocated memory. -/
def parseHttpRequest2 (request key : CStr) : Except FieldError CStr :=
  (paramOf request key).map fun param => CStr.ofBytes (param ++ [0])

/-- A parser reports a missing key exactly when the request does not contain it. -/
theorem map_paramOf_notFound_iff {α : Type} {request key : CStr} {f : Bytes → α} :
    (paramOf request key).map f = .error .notFound ↔ request.has key = false := by
  rw [← CStr.strstr_eq_none_iff, paramOf]
  cases hfind : request.strstr key with
  | none => simp [Except.map]
  | some text =>
      dsimp only
      split <;> simp [Except.map]

/-- A parser that delivers a value has found its key. -/
theorem has_of_map_paramOf {α : Type} {request key : CStr} {f : Bytes → α} {value : α}
    (h : (paramOf request key).map f = .ok value) : request.has key ≠ false := by
  intro hnot
  rw [map_paramOf_notFound_iff.2 hnot] at h
  cases h

/-! ## Forms -/

/-- The value of a form field: a string without the separator. -/
structure FieldValue where
  str : CStr
  noAmp : byte '&' ∉ str.val
  deriving DecidableEq

/-- A form as it is sent: `name=value` pairs with `&` between them. -/
def formBody : List (CStr × FieldValue) → Bytes
  | [] => []
  | [(name, v)] => name.val ++ byte '=' :: v.str.val
  | (name, v) :: field :: fields =>
      name.val ++ byte '=' :: (v.str.val ++ byte '&' :: formBody (field :: fields))

/-- A request whose body is a form. -/
def formRequest (pre : CStr) (form : List (CStr × FieldValue)) : CStr :=
  CStr.ofBytes (pre.val ++ formBody form)

/-- No value before the field contains its name. If one does, the parser takes what follows there,
which is still right when that is one character and then the value that was meant. -/
def Unshadowed (key : CStr) (value : FieldValue) : List FieldValue → Prop
  | [] => True
  | v :: vs =>
      match Search.afterFirst key.val v.str.val with
      | none => Unshadowed key value vs
      | some rest => rest ≠ [] ∧ rest.tail = value.str.val

instance decidableUnshadowed (key : CStr) (value : FieldValue) :
    ∀ vs, Decidable (Unshadowed key value vs)
  | [] => .isTrue trivial
  | v :: vs =>
      match h : Search.afterFirst key.val v.str.val with
      | none =>
          have := decidableUnshadowed key value vs
          decidable_of_iff (Unshadowed key value vs) (by rw [Unshadowed, h])
      | some rest =>
          decidable_of_iff (rest ≠ [] ∧ rest.tail = value.str.val) (by rw [Unshadowed, h])

/-- A name that can be searched for: not empty, and without the separators of a form. -/
structure IsName (key : CStr) : Prop where
  ne_nil : key.val ≠ []
  noEq : byte '=' ∉ key.val
  noAmp : byte '&' ∉ key.val

/-! ## What the parsers find in a form -/

theorem nulFree_formBody : ∀ form : List (CStr × FieldValue), (0 : UInt8) ∉ formBody form
  | [] => by simp [formBody]
  | [(name, v)] => by
      have h : (0 : UInt8) ≠ byte '=' := by decide
      simp [formBody, name.nulFree, v.str.nulFree, h]
  | (name, v) :: field :: fields => by
      have h : (0 : UInt8) ≠ byte '=' := by decide
      have h' : (0 : UInt8) ≠ byte '&' := by decide
      simp [formBody, name.nulFree, v.str.nulFree, h, h', nulFree_formBody (field :: fields)]

theorem formRequest_val (pre : CStr) (form : List (CStr × FieldValue)) :
    (formRequest pre form).val = pre.val ++ formBody form := by
  rw [formRequest, CStr.ofBytes_val_of_nulFree]
  simp [pre.nulFree, nulFree_formBody]

/-- What `paramOf` computes, from the text at the first occurrence of the key. -/
theorem paramOf_eq {request key : CStr} {text : Bytes}
    (h : Search.find key.val request.val = some text) :
    paramOf request key =
      if (text.takeWhile (· ≠ byte '&')).length < key.length + 1 then .error .overrun
      else .ok ((text.takeWhile (· ≠ byte '&')).drop (key.length + 1)) := by
  have hnul : (0 : UInt8) ∉ text := fun hm => request.nulFree ((Search.suffix_of_find h).subset hm)
  have hstr : request.strstr key = some ⟨text, hnul⟩ := CStr.strstr_eq_some_iff.2 h
  have hdef : paramOf request key =
      let tmpParam := text.takeWhile (· ≠ byte '&')
      let size : Int := tmpParam.length - key.length - 1
      if size < 0 then .error .overrun
      else .ok ((tmpParam.drop (key.length + 1)).take size.toNat) := by
    rw [paramOf, hstr]
    rfl
  rw [hdef]
  dsimp only
  by_cases hlen : (text.takeWhile (· ≠ byte '&')).length < key.length + 1
  · rw [if_pos hlen, if_pos (by omega)]
  · rw [if_neg hlen, if_neg (by omega), List.take_of_length_le]
    simp only [List.length_drop]
    omega

/-- The text up to the next `&`, when the text has one. -/
theorem takeWhile_append_amp {s : Bytes} (hs : byte '&' ∉ s) (rest : Bytes) :
    (s ++ byte '&' :: rest).takeWhile (· ≠ byte '&') = s := by
  rw [List.takeWhile_append_of_pos]
  · simp
  · intro b hb
    simpa using fun h : b = byte '&' => hs (h ▸ hb)

theorem takeWhile_noAmp {s : Bytes} (hs : byte '&' ∉ s) : s.takeWhile (· ≠ byte '&') = s := by
  rw [List.takeWhile_eq_self_iff]
  intro b hb
  simpa using fun h : b = byte '&' => hs (h ▸ hb)

/-- When the first occurrence lies in an earlier value, what follows it there is taken. -/
theorem paramOf_in_value {request key : CStr} {s rest : Bytes} {value : Bytes}
    (h : Search.find key.val request.val = some (s ++ rest)) (hkey : key.val <+: s)
    (hs : (s ++ rest).takeWhile (· ≠ byte '&') = s) :
    paramOf request key = .ok value ↔
      s.drop key.val.length ≠ [] ∧ (s.drop key.val.length).tail = value := by
  have hlen : key.val.length ≤ s.length := hkey.length_le
  rw [paramOf_eq h, hs, List.tail_drop, ne_eq, List.drop_eq_nil_iff]
  split_ifs with hlt
  · simp only [CStr.length] at hlt
    refine ⟨nofun, ?_⟩
    rintro ⟨hne, -⟩
    exact absurd (by omega) hne
  · simp only [CStr.length] at hlt
    simp only [Except.ok.injEq, CStr.length]
    exact ⟨fun h => ⟨by omega, h⟩, fun h => h.2⟩

/-- The search in a form steps over a field whose name does not contain the key: it ends in the
field's value or goes on behind it. -/
theorem find_formBody_cons {key : CStr} (hkey : IsName key) {name : CStr} {v : FieldValue}
    (hname : ¬ key.val <:+: name.val) (field : CStr × FieldValue)
    (fields : List (CStr × FieldValue)) :
    Search.find key.val (formBody ((name, v) :: field :: fields)) =
      match Search.find key.val v.str.val with
      | some s => some (s ++ byte '&' :: formBody (field :: fields))
      | none => Search.find key.val (formBody (field :: fields)) := by
  rw [formBody, Search.find_append_cons hkey.ne_nil hkey.noEq, Search.find_eq_none_iff.2 hname]
  show Search.find key.val (v.str.val ++ byte '&' :: formBody (field :: fields)) = _
  rw [Search.find_append_cons hkey.ne_nil hkey.noAmp]
  cases Search.find key.val v.str.val <;> rfl

/-- The field `key=v` at the head of a form, up to its end. -/
theorem formBody_head (key : CStr) (hkey : IsName key) (v : FieldValue)
    (fields : List (CStr × FieldValue)) :
    ∃ rest, formBody ((key, v) :: fields) = (key.val ++ byte '=' :: v.str.val) ++ rest ∧
      (formBody ((key, v) :: fields)).takeWhile (· ≠ byte '&') =
        key.val ++ byte '=' :: v.str.val := by
  have hne : byte '&' ≠ byte '=' := by decide
  have hamp : byte '&' ∉ key.val ++ byte '=' :: v.str.val := by
    simp [hkey.noAmp, v.noAmp, hne]
  cases fields with
  | nil => exact ⟨[], by simp [formBody], by rw [formBody]; exact takeWhile_noAmp hamp⟩
  | cons field fields =>
      have hbody : formBody ((key, v) :: field :: fields) =
          (key.val ++ byte '=' :: v.str.val) ++ byte '&' :: formBody (field :: fields) := by
        simp [formBody]
      exact ⟨_, hbody, by rw [hbody]; exact takeWhile_append_amp hamp _⟩

/-- **What is taken out of a form.** The value of a field is taken out exactly when no value before
it shadows its name. `pre` is what the request holds before the form: the search reaches the form
(`hpre`). -/
theorem paramOf_form_iff {request key : CStr} (hkey : IsName key) (value : FieldValue)
    (after before : List (CStr × FieldValue))
    (hpre : Search.find key.val request.val =
      Search.find key.val (formBody (before ++ (key, value) :: after)))
    (hnames : ∀ field ∈ before, ¬ key.val <:+: field.1.val) :
    paramOf request key = .ok value.str.val ↔ Unshadowed key value (before.map (·.2)) := by
  -- over the fields before the one that is meant, which the search steps over one by one
  induction before with
  | nil =>
      obtain ⟨rest, hbody, htake⟩ := formBody_head key hkey value after
      have hfind : Search.find key.val request.val = some (formBody ((key, value) :: after)) := by
        rw [hpre]
        refine Search.find_of_leading ?_
        rw [List.nil_append, hbody, List.append_assoc]
        exact List.prefix_append _ _
      rw [paramOf_eq hfind, htake, if_neg (by simp [CStr.length])]
      simp [Unshadowed, CStr.length]
  | cons first before ih =>
      obtain ⟨name, v⟩ := first
      obtain ⟨field, fields, hrest⟩ : ∃ field fields, before ++ (key, value) :: after =
          field :: fields := by
        cases before with
        | nil => exact ⟨_, _, rfl⟩
        | cons f fs => exact ⟨_, _, rfl⟩
      rw [List.cons_append, hrest, find_formBody_cons hkey (hnames _ (.head _)), ← hrest] at hpre
      simp only [List.map_cons, Unshadowed, Search.afterFirst]
      cases hv : Search.find key.val v.str.val with
      | none =>
          rw [hv] at hpre
          exact ih hpre fun f hf => hnames f (.tail _ hf)
      | some s =>
          rw [hv] at hpre
          refine paramOf_in_value hpre (Search.prefix_of_find hv) (takeWhile_append_amp ?_ _)
          exact fun h => v.noAmp ((Search.suffix_of_find hv).subset h)

/-- The search goes past what stands before a form. -/
theorem find_formRequest {pre key : CStr} (hkey : IsName key) (hpre : pre.has key = false)
    {name : CStr} (hover : Search.NoOverlap key.val name.val) (v : FieldValue)
    (fields : List (CStr × FieldValue)) :
    Search.find key.val (formRequest pre ((name, v) :: fields)).val =
      Search.find key.val (formBody ((name, v) :: fields)) := by
  rw [formRequest_val]
  refine Search.find_append_of_noOverlap (CStr.has_eq_false_iff.1 hpre) ?_
  cases fields with
  | nil => exact hover.append_cons hkey.noEq _
  | cons field fields => exact hover.append_cons hkey.noEq _

/-- Neither parser changes what it found. -/
theorem map_paramOf_eq_ok_iff {request key value : CStr} :
    ((paramOf request key).map fun param => CStr.ofBytes (param ++ [0])) = .ok value ↔
      paramOf request key = .ok value.val := by
  cases hfind : request.strstr key with
  | none => simp [paramOf, hfind, Except.map]
  | some text =>
      cases hparam : paramOf request key with
      | error e => simp [Except.map]
      | ok param =>
          have hnul : (0 : UInt8) ∉ param := by
            intro hm
            rw [paramOf_eq (CStr.strstr_eq_some_iff.1 hfind)] at hparam
            split_ifs at hparam
            cases hparam
            exact text.nulFree (List.takeWhile_subset _ (List.drop_subset _ _ hm))
          simp only [Except.map, Except.ok.injEq, CStr.ofBytes_append_nul, CStr.ext_iff,
            CStr.ofBytes_val_of_nulFree hnul]

/-! ## The forms of the device -/

/-- The WiFi form (`wifi_setup_html`). -/
def wifiForm (ssid password : FieldValue) : List (CStr × FieldValue) :=
  [(lit "ssid", ssid), (lit "password", password)]

/-- The MQTT form (`mqtt_setup_html`). -/
def mqttForm (username password clientID server port name : FieldValue) :
    List (CStr × FieldValue) :=
  [(lit "username", username), (lit "password", password), (lit "clientID", clientID),
    (lit "server", server), (lit "port", port), (lit "name", name)]

/-- The names the device searches for. -/
def searchedNames : List CStr := [lit "ssid", lit "username", lit "password", lit "clientID"]

theorem isName_of_mem : ∀ key ∈ searchedNames, IsName key := by
  have h : ∀ key ∈ searchedNames,
      key.val ≠ [] ∧ byte '=' ∉ key.val ∧ byte '&' ∉ key.val := by decide +kernel
  exact fun key hk => ⟨(h key hk).1, (h key hk).2.1, (h key hk).2.2⟩

/-- None of these names continues into the first name of a form. -/
theorem noOverlap_of_mem : ∀ key ∈ searchedNames, ∀ name ∈ [lit "ssid", lit "username"],
    Search.NoOverlap key.val name.val := by
  decide +kernel

/-- What is taken out of one of the forms behind a prefix without the field's name. -/
theorem paramOf_formRequest_iff (pre : CStr) {key : CStr} {value : FieldValue}
    (form before after : List (CStr × FieldValue)) (hkey : key ∈ searchedNames)
    (hpre : pre.has key = false) (hform : form = before ++ (key, value) :: after)
    (hfirst : ∀ field ∈ form.head?, field.1 ∈ [lit "ssid", lit "username"])
    (hnames : ∀ field ∈ before, ¬ key.val <:+: field.1.val) :
    ((paramOf (formRequest pre form) key).map fun param => CStr.ofBytes (param ++ [0])) =
        .ok value.str ↔ Unshadowed key value (before.map (·.2)) := by
  rw [map_paramOf_eq_ok_iff]
  refine paramOf_form_iff (isName_of_mem key hkey) value after before ?_ hnames
  rw [← hform]
  cases form with
  | nil => cases before <;> cases hform
  | cons field fields =>
      exact find_formRequest (isName_of_mem key hkey) hpre
        (noOverlap_of_mem key hkey field.1 (hfirst field rfl)) field.2 fields

/-- **Extraction undoes form building exactly when no earlier value shadows a later name.** In the
WiFi form the SSID must not contain `password`; in the MQTT form the user name must not contain
`password` or `clientID`, nor the password `clientID` (or, where one does, the value meant must
follow there). -/
theorem setupForms_roundtrip_iff (pre : CStr) (s p u w c v q n : FieldValue) :
    ((∀ field ∈ wifiForm s p, pre.has field.1 = false) →
      ((parseHttpRequest (formRequest pre (wifiForm s p)) (lit "ssid") = .ok s.str ∧
          parseHttpRequest (formRequest pre (wifiForm s p)) (lit "password") = .ok p.str) ↔
        Unshadowed (lit "password") p [s])) ∧
    ((∀ field ∈ mqttForm u w c v q n, pre.has field.1 = false) →
      ((parseHttpRequest2 (formRequest pre (mqttForm u w c v q n)) (lit "username") = .ok u.str ∧
          parseHttpRequest2 (formRequest pre (mqttForm u w c v q n)) (lit "password") = .ok w.str ∧
          parseHttpRequest2 (formRequest pre (mqttForm u w c v q n)) (lit "clientID") = .ok c.str) ↔
        Unshadowed (lit "password") w [u] ∧ Unshadowed (lit "clientID") c [u, w])) := by
  constructor
  · intro hpre
    have hs := paramOf_formRequest_iff pre (wifiForm s p) [] [(lit "password", p)]
      (by simp [searchedNames]) (hpre (lit "ssid", s) (by simp [wifiForm])) rfl (by simp [wifiForm])
      (by simp)
    have hp := paramOf_formRequest_iff pre (wifiForm s p) [(lit "ssid", s)] []
      (by simp [searchedNames]) (hpre (lit "password", p) (by simp [wifiForm])) rfl
      (by simp [wifiForm]) (by simp; decide +kernel)
    rw [parseHttpRequest, parseHttpRequest]
    exact (and_congr hs hp).trans ⟨fun h => h.2, fun h => ⟨trivial, h⟩⟩
  · intro hpre
    have hu := paramOf_formRequest_iff pre (mqttForm u w c v q n) []
      (mqttForm u w c v q n).tail (by simp [searchedNames])
      (hpre (lit "username", u) (by simp [mqttForm])) rfl (by simp [mqttForm]) (by simp)
    have hw := paramOf_formRequest_iff pre (mqttForm u w c v q n) [(lit "username", u)]
      ((mqttForm u w c v q n).drop 2) (by simp [searchedNames])
      (hpre (lit "password", w) (by simp [mqttForm])) rfl (by simp [mqttForm])
      (by simp; decide +kernel)
    have hc := paramOf_formRequest_iff pre (mqttForm u w c v q n)
      [(lit "username", u), (lit "password", w)] ((mqttForm u w c v q n).drop 3)
      (by simp [searchedNames]) (hpre (lit "clientID", c) (by simp [mqttForm])) rfl
      (by simp [mqttForm]) (by simp; decide +kernel)
    rw [parseHttpRequest2, parseHttpRequest2, parseHttpRequest2]
    exact (and_congr hu (and_congr hw hc)).trans ⟨fun h => h.2, fun h => ⟨trivial, h⟩⟩

/-- A field value from a literal. -/
def FieldValue.lit (s : String) (h : byte '&' ∉ (CStr.lit s).val) : FieldValue := ⟨CStr.lit s, h⟩

/-- A request line and the end of the headers. -/
def bareHead : CStr := lit "POST /wifi-setup HTTP/1.1\r\n\r\n"

/-- At two forms whose values shadow nothing. -/
theorem setupForms_roundtrip_home :
    let s := FieldValue.lit "home" (by decide)
    let p := FieldValue.lit "secret" (by decide)
    let u := FieldValue.lit "alice" (by decide)
    let c := FieldValue.lit "c1" (by decide)
    let v := FieldValue.lit "" (by decide)
    ((∀ field ∈ wifiForm s p, bareHead.has field.1 = false) ∧
      parseHttpRequest (formRequest bareHead (wifiForm s p)) (lit "password") = .ok p.str) ∧
    ((∀ field ∈ mqttForm u p c v v v, bareHead.has field.1 = false) ∧
      parseHttpRequest2 (formRequest bareHead (mqttForm u p c v v v)) (lit "clientID") =
        .ok c.str) := by
  intro s p u c v
  have hwifi : ∀ field ∈ wifiForm s p, bareHead.has field.1 = false := by decide +kernel
  have hmqtt : ∀ field ∈ mqttForm u p c v v v, bareHead.has field.1 = false := by decide +kernel
  have hforms := setupForms_roundtrip_iff bareHead s p u p c v v v
  exact ⟨⟨hwifi, ((hforms.1 hwifi).2 (by decide +kernel)).2⟩,
    ⟨hmqtt, ((hforms.2 hmqtt).2 (by decide +kernel)).2.2⟩⟩

/-- A network called `password_club`: the password is read out of its name. -/
theorem password_taken_from_ssid :
    let s := FieldValue.lit "password_club" (by decide)
    let p := FieldValue.lit "secret" (by decide)
    (∀ field ∈ wifiForm s p, bareHead.has field.1 = false) ∧
      parseHttpRequest (formRequest bareHead (wifiForm s p)) (lit "password") = .ok (lit "club") ∧
      lit "club" ≠ p.str := by
  decide +kernel

end Esp32Iot
