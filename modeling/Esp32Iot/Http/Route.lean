import Esp32Iot.CString

/-!
# The branch an HTTP request takes

`http_server_netconn_serve` (`HttpServer/esp32iot_http_server.c`) picks its branch by a chain of
`strstr` searches over the whole receive buffer. `route` is that chain: `getRoutes` and
`postRoutes` are its texts in the order in which they are searched.

The route table a reader takes from the chain, `routeTable`, goes by the request line alone. The
two agree only as long as nothing else in the request mentions a text that is searched before the
target's own: `route_eq_routeTable_iff` is the exact condition, and
`restart_taken_for_wifiSetup` a request a browser sends that does not meet it.
-/

namespace Esp32Iot

open CStr (lit)
open Search (firstMatch rowsBefore)

/-! ## The chain of searches -/

/-- The branches of `http_server_netconn_serve`. -/
inductive Branch
  /-- `index_html` -/
  | index
  /-- `wifi_setup_html` -/
  | wifiSetupMenu
  /-- `mqtt_setup_html` -/
  | mqttSetupMenu
  /-- `not_found_error_html`, from either method's chain -/
  | notFound
  | wifiSetup
  | mqttSetup
  | eraseWifiData
  | resetRestartCounter
  | bleTest
  | restart
  /-- neither method: the connection is closed without an answer -/
  | unanswered
  deriving DecidableEq

/-- The searches under `strstr(recv_buf, "GET ")`, in order. -/
def getRoutes : List (CStr × Branch) :=
  [(lit "/ ", .index), (lit "/index ", .index), (lit "/wifi-setup-menu ", .wifiSetupMenu),
    (lit "/mqtt-setup-menu ", .mqttSetupMenu)]

/-- The searches under `strstr(recv_buf, "POST ")`, in order. The first two have no blank at the
end. -/
def postRoutes : List (CStr × Branch) :=
  [(lit "/wifi-setup", .wifiSetup), (lit "/mqtt-setup", .mqttSetup),
    (lit "/erase-wifi-data ", .eraseWifiData),
    (lit "/reset_restart_counter ", .resetRestartCounter), (lit "/ble_test ", .bleTest),
    (lit "/restart ", .restart)]

/-- The branch taken on a receive buffer. -/
def route (recvBuf : CStr) : Branch :=
  if recvBuf.has (lit "GET ") && recvBuf.has (lit " HTTP/1.1") then
    firstMatch recvBuf.has .notFound getRoutes
  else if recvBuf.has (lit "POST ") && recvBuf.has (lit " HTTP/1.1") then
    firstMatch recvBuf.has .notFound postRoutes
  else .unanswered

/-! ## Requests -/

/-- The methods of the route table. -/
inductive Method
  | get
  | post
  deriving DecidableEq

/-- The method and the blank after it. -/
def Method.text : Method → CStr
  | .get => lit "GET "
  | .post => lit "POST "

/-- An HTTP request with any header lines and any body. -/
structure Request where
  method : Method
  target : CStr
  headers : List Bytes
  body : Bytes

namespace Request

/-- `<METHOD> <target> HTTP/1.1`. -/
def line (r : Request) : Bytes :=
  r.method.text.val ++ (r.target.val ++ bytes " " ++ bytes "HTTP/1.1")

/-- What follows the request line. -/
def afterLine (r : Request) : Bytes :=
  bytes "\r\n" ++ r.headers.flatMap (· ++ bytes "\r\n") ++ bytes "\r\n" ++ r.body

/-- The receive buffer: the request, its terminating NUL and whatever lies behind it. -/
def recvBuf (r : Request) (memory : Bytes) : CStr :=
  CStr.ofBytes (r.line ++ r.afterLine ++ 0 :: memory)

/-- A text occurs in the target, taken with the blank after it, or in what follows the request line
(up to a NUL in it). -/
def Mentions (r : Request) (text : CStr) : Prop :=
  text.val <:+: r.target.val ++ bytes " " ∨ text.val <:+: (CStr.ofBytes r.afterLine).val

end Request

/-- The targets of the route table. -/
def Method.targets : Method → List (CStr × Branch)
  | .get =>
      [(lit "/", .index), (lit "/index", .index), (lit "/wifi-setup-menu", .wifiSetupMenu),
        (lit "/mqtt-setup-menu", .mqttSetupMenu)]
  | .post =>
      [(lit "/wifi-setup", .wifiSetup), (lit "/mqtt-setup", .mqttSetup),
        (lit "/erase-wifi-data", .eraseWifiData),
        (lit "/reset_restart_counter", .resetRestartCounter), (lit "/ble_test", .bleTest),
        (lit "/restart", .restart)]

/-- The branch the request line stands for. -/
def routeTable (m : Method) (target : CStr) : Branch :=
  firstMatch (· = target) .notFound m.targets

/-- The texts searched before the one that stands for the target: all of them for a target that has
none of its own. A `POST` is first searched for `GET `. -/
def searchedBefore (m : Method) (target : CStr) : List CStr :=
  match m with
  | .get => (rowsBefore (routeTable .get target) getRoutes).map (·.1)
  | .post => lit "GET " :: (rowsBefore (routeTable .post target) postRoutes).map (·.1)

/-- Nothing that is searched before the target's own text occurs where it can be taken for a
target. The second case is a `POST` to an unknown target that goes through the `GET` chain and
ends in the same answer. -/
def Request.Undisturbed (r : Request) : Prop :=
  (∀ text ∈ searchedBefore r.method r.target, ¬ r.Mentions text) ∨
    (r.method = .post ∧ routeTable .post r.target = .notFound ∧ r.Mentions (lit "GET ") ∧
      ∀ row ∈ getRoutes, ¬ r.Mentions row.1)

/-! ## Where a text of the chain can occur in a request -/

/-- The texts whose place in a request decides the branch. -/
def routingTexts : List CStr := getRoutes.map (·.1) ++ lit "GET " :: postRoutes.map (·.1)

/-- A routing text has a blank at most at its end, and none of them starts in `HTTP/1.1`. -/
theorem routingTexts_in_line : ∀ text ∈ routingTexts,
    byte ' ' ∉ text.val.dropLast ∧
      ∀ s ∈ (bytes "HTTP/1.1").tails, s = [] ∨ ¬ (s <+: text.val ∨ text.val <+: s) := by
  decide +kernel

/-- Apart from `GET ` itself, no routing text starts in the method. -/
theorem routingTexts_in_method : ∀ m : Method, ∀ text ∈ routingTexts,
    (m = .get ∧ text = lit "GET ") ∨
      ∀ s ∈ m.text.val.tails, s = [] ∨ ¬ (s <+: text.val ∨ text.val <+: s) := by
  intro m
  cases m <;> decide +kernel

theorem Request.recvBuf_val (r : Request) (memory : Bytes) :
    (r.recvBuf memory).val =
      r.method.text.val ++ (r.target.val ++ bytes " " ++
        (bytes "HTTP/1.1" ++ (CStr.ofBytes r.afterLine).val)) := by
  have hhttp : bytes "HTTP/1.1" = (lit "HTTP/1.1").val := rfl
  have hblank : bytes " " = (lit " ").val := rfl
  rw [recvBuf, CStr.ofBytes_append_nul, line, hhttp, hblank]
  simp only [List.append_assoc, CStr.ofBytes_append_val]

/-- `strstr` finds a routing text in the buffer exactly when the target or the rest of the request
mentions it. -/
theorem Request.has_iff_mentions (r : Request) (memory : Bytes) {text : CStr}
    (ht : text ∈ routingTexts) (hm : r.method = .get → text ≠ lit "GET ") :
    (r.recvBuf memory).has text = true ↔ r.Mentions text := by
  obtain ⟨hblank, hhttp⟩ := routingTexts_in_line text ht
  have hmethod := (routingTexts_in_method r.method text ht).resolve_left fun h => hm h.1 h.2
  have hsp : bytes " " = [byte ' '] := rfl
  rw [CStr.has_iff, recvBuf_val, Search.infix_append_right_iff hmethod, hsp,
    Search.infix_append_singleton_iff hblank, Search.infix_append_right_iff hhttp]
  exact Iff.rfl

/-- The method of the request line and its protocol version are found. -/
theorem Request.has_line (r : Request) (memory : Bytes) :
    (r.recvBuf memory).has r.method.text = true ∧
      (r.recvBuf memory).has (lit " HTTP/1.1") = true := by
  have hversion : (lit " HTTP/1.1").val = bytes " " ++ bytes "HTTP/1.1" := rfl
  rw [CStr.has_iff, CStr.has_iff, recvBuf_val, hversion]
  refine ⟨(List.prefix_append _ _).isInfix, r.method.text.val ++ r.target.val,
    (CStr.ofBytes r.afterLine).val, ?_⟩
  simp only [List.append_assoc]

/-! ## The chains on a request -/

/-- The chain of a method. -/
def Method.routes : Method → List (CStr × Branch)
  | .get => getRoutes
  | .post => postRoutes

theorem Method.routes_subset (m : Method) : ∀ row ∈ m.routes, row.1 ∈ routingTexts ∧
    row.1 ≠ lit "GET " := by
  cases m <;> decide +kernel

/-- A target of the route table mentions one of the texts of its own branch. -/
theorem targets_mention : ∀ m : Method, ∀ entry ∈ m.targets,
    ∃ row ∈ Search.ownRows entry.2 m.routes, row.1.val <:+: entry.1.val ++ bytes " " := by
  intro m
  cases m <;> decide +kernel

/-- A row of the target's own branch is mentioned by the target itself, and a target without one is
not found. -/
theorem own_row_mentioned (m : Method) (target : CStr) :
    (∃ row ∈ Search.ownRows (routeTable m target) m.routes,
        row.1.val <:+: target.val ++ bytes " ") ∨
      (Branch.notFound = routeTable m target ∧
        ∀ row ∈ m.routes, row.2 ≠ routeTable m target) := by
  rcases Search.firstMatch_cases (· = target) Branch.notFound m.targets with
    ⟨entry, he, ht, hb⟩ | hb
  · rw [decide_eq_true_iff] at ht
    refine .inl ?_
    rw [routeTable, hb, ← ht]
    exact targets_mention m entry he
  · refine .inr ?_
    rw [routeTable, hb]
    exact ⟨rfl, by cases m <;> decide +kernel⟩

/-- The chain of a method ends in the branch of the target exactly when the request mentions no text
that is searched before it. -/
theorem Request.chain_eq_iff (r : Request) (memory : Bytes) (m : Method) :
    firstMatch (r.recvBuf memory).has .notFound m.routes = routeTable m r.target ↔
      ∀ row ∈ rowsBefore (routeTable m r.target) m.routes, ¬ r.Mentions row.1 := by
  have hrow : ∀ row ∈ m.routes, ((r.recvBuf memory).has row.1 = true ↔ r.Mentions row.1) :=
    fun row hr => r.has_iff_mentions memory (m.routes_subset row hr).1
      fun _ => (m.routes_subset row hr).2
  rw [Search.firstMatch_eq_iff]
  · refine forall₂_congr fun row hr => ?_
    rw [← hrow row ((List.takeWhile_subset _) hr), Bool.not_eq_true]
  · refine (own_row_mentioned m r.target).imp_left ?_
    rintro ⟨row, hr, ht⟩
    have hmem : row ∈ m.routes :=
      (List.dropWhile_subset _) ((List.takeWhile_subset _) hr)
    exact ⟨row, hr, (hrow row hmem).2 (.inl ht)⟩

/-- A `POST` that is sent through the `GET` chain ends in its own branch only when both are the
not-found answer. -/
theorem Request.getChain_eq_post_iff (r : Request) (memory : Bytes) :
    firstMatch (r.recvBuf memory).has .notFound getRoutes = routeTable .post r.target ↔
      routeTable .post r.target = .notFound ∧ ∀ row ∈ getRoutes, ¬ r.Mentions row.1 := by
  have hrow : ∀ row ∈ getRoutes, ((r.recvBuf memory).has row.1 = true ↔ r.Mentions row.1) :=
    fun row hr => r.has_iff_mentions memory (Method.get.routes_subset row hr).1
      fun _ => (Method.get.routes_subset row hr).2
  have hnone : firstMatch (r.recvBuf memory).has .notFound getRoutes = .notFound ↔
      ∀ row ∈ getRoutes, ¬ r.Mentions row.1 := by
    have hall : rowsBefore Branch.notFound getRoutes = getRoutes := by decide +kernel
    rw [Search.firstMatch_eq_iff (.inr ⟨rfl, by decide +kernel⟩), hall]
    refine forall₂_congr fun row hr => ?_
    rw [← hrow row hr, Bool.not_eq_true]
  constructor
  · intro h
    have hdisjoint : ∀ row ∈ getRoutes, ∀ entry ∈ Method.post.targets, row.2 ≠ entry.2 := by
      decide +kernel
    have hnf : routeTable .post r.target = .notFound := by
      rcases Search.firstMatch_cases (· = r.target) Branch.notFound Method.post.targets with
        ⟨entry, he, -, hb⟩ | hb
      · rcases Search.firstMatch_cases (r.recvBuf memory).has Branch.notFound getRoutes with
          ⟨row, hr, -, hb'⟩ | hb'
        · rw [hb', routeTable, hb] at h
          exact absurd h (hdisjoint row hr entry he)
        · rw [← h, hb']
      · exact hb
    exact ⟨hnf, hnone.1 (h.trans hnf)⟩
  · rintro ⟨hnf, h⟩
    rw [hnf, hnone.2 h]

/-! ## Routing and the request line -/

/-- **Routing goes by the request line exactly when nothing else disturbs it.** The branch taken is
the route table's if and only if neither the target nor what follows the request line mentions a
text that is searched before the target's own. -/
theorem route_eq_routeTable_iff (r : Request) (memory : Bytes) :
    route (r.recvBuf memory) = routeTable r.method r.target ↔ r.Undisturbed := by
  obtain ⟨hmethod, hversion⟩ := r.has_line memory
  cases hm : r.method with
  | get =>
      have hget : (r.recvBuf memory).has (lit "GET ") = true := by rw [hm] at hmethod; exact hmethod
      have hroute : route (r.recvBuf memory) =
          firstMatch (r.recvBuf memory).has .notFound Method.get.routes := by
        simp [route, hget, hversion, Method.routes]
      rw [hroute, r.chain_eq_iff memory .get, Request.Undisturbed, hm]
      simp [searchedBefore, Method.routes]
  | post =>
      have hpost : (r.recvBuf memory).has (lit "POST ") = true := by
        rw [hm] at hmethod; exact hmethod
      have hiff : (r.recvBuf memory).has (lit "GET ") = true ↔ r.Mentions (lit "GET ") :=
        r.has_iff_mentions memory (by decide +kernel) fun h => by rw [hm] at h; cases h
      by_cases hg : r.Mentions (lit "GET ")
      · -- the request is taken for a `GET`
        have hroute : route (r.recvBuf memory) =
            firstMatch (r.recvBuf memory).has .notFound getRoutes := by
          simp [route, hiff.2 hg, hversion]
        rw [hroute, r.getChain_eq_post_iff memory, Request.Undisturbed, hm]
        simp [searchedBefore, hg]
      · have hget : (r.recvBuf memory).has (lit "GET ") = false := by
          rw [← Bool.not_eq_true, hiff]; exact hg
        have hroute : route (r.recvBuf memory) =
            firstMatch (r.recvBuf memory).has .notFound Method.post.routes := by
          simp [route, hget, hpost, hversion, Method.routes]
        rw [hroute, r.chain_eq_iff memory .post, Request.Undisturbed, hm]
        simp [searchedBefore, hg, Method.routes]

/-- The request a browser sends for the *Restart* button with the WiFi form as its referrer. -/
def restartFromWifiForm : Request where
  method := .post
  target := lit "/restart"
  headers := [bytes "Host: 192.168.4.1", bytes "Referer: http://192.168.4.1/wifi-setup-menu"]
  body := []

/-- It is handled as a WiFi setup, while the same request line without the referrer restarts the
device. -/
theorem restart_taken_for_wifiSetup :
    route (restartFromWifiForm.recvBuf []) = .wifiSetup ∧
      routeTable restartFromWifiForm.method restartFromWifiForm.target = .restart ∧
      route ({ restartFromWifiForm with headers := [bytes "Host: 192.168.4.1"] }.recvBuf []) =
        .restart := by
  decide +kernel

end Esp32Iot
