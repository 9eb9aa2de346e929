import ConfdbHsr.Daemon.Attempts
import ConfdbHsr.Daemon.Creation
import ConfdbHsr.Daemon.Scenario
import ConfdbHsr.ParsedLinks

/-!
# The requests of the daemon can be read

* `MadeByDaemon`   a create request is one that `create_hsr_interface` builds;
* `step_made`      so is every create request of a step;
* `Readable`       the message of a request is built, and it says what the daemon meant;
* `requests_readable`   along every run, every request of the daemon is.
-/

namespace Hsr
open Nl Proc Scan Machine

variable {W : Type} (S : Sys W)

/-! ## the create requests -/

/-- a create request is the one for an HSR link with two ports and a version -/
def Act.MadeByDaemon : Act → Prop
  | .linkAdd ifName request _ => ∃ s1 s2 version, request = hsrRequest ifName s1 s2 version
  | _ => True

lemma createHsrInterface_made (ifName : CStr) (slave1 slave2 : Option LinkObj) (version : UInt8) :
    Always Act.MadeByDaemon (createHsrInterface S ifName slave1 slave2 version) := by
  refine always_bind (deref_always _ _) fun s1 => ?_
  refine always_bind (deref_always _ _) fun s2 => ?_
  refine always_bind (always_sys _) fun ret => ?_
  exact always_bind (always_emit ⟨s1.lIndex, s2.lIndex, version, rfl⟩) fun _ => always_pure _

lemma createHif_made (node : WaitListNode) : Always Act.MadeByDaemon (createHif S node) := by
  refine always_bind (always_emit trivial) fun _ => always_bind ?_ fun _ => always_pure _
  refine withDump_always S (fun _ => always_fail _) fun links => ?_
  unfold createOrRecreate
  split
  · exact createHsrInterface_made S _ _ _ _
  · refine always_bind (deleteHsrInterface_always S fun _ => trivial) fun ret => ?_
    exact always_ite (fun _ => always_pure _) fun _ => createHsrInterface_made S _ _ _ _

lemma mainCheckFresh_made (waitList : List WaitListNode) (ifName : CStr) (m1 m2 : Option LinkObj)
    (s1 s2 : LinkObj) (node : WaitListNode) :
    Always Act.MadeByDaemon (mainCheckFresh S waitList ifName m1 m2 s1 s2 node) := by
  refine always_ite (fun _ => ?_) fun _ => ?_
  · refine always_ite (fun _ => ?_) fun _ => always_pure _
    refine always_bind (createHsrInterface_made S _ _ _ _) fun ret => ?_
    exact always_ite (fun _ => always_pure _) fun _ => always_pure _
  · refine always_ite (fun _ => always_pure _) fun _ => ?_
    exact always_ite (fun _ => always_pure _) fun _ => always_pure _

lemma mainCheck_made (waitList : List WaitListNode) (ifName : CStr)
    (slave1 slave2 hsrLink : Option LinkObj) (node : WaitListNode) :
    Always Act.MadeByDaemon (mainCheck S waitList ifName slave1 slave2 hsrLink node) := by
  have hmaster (slave : UInt32) : Always Act.MadeByDaemon (getMaster S slave) :=
    getMaster_always S slave fun _ _ => trivial
  unfold mainCheck
  split
  · exact always_pure _
  · exact always_bind (hmaster _) fun _ => always_pure _
  · exact always_bind (hmaster _) fun _ => always_pure _
  · refine always_bind (hmaster _) fun m1 => always_bind (hmaster _) fun m2 => ?_
    split
    · refine always_bind (mainCheckReconfigure_always S trivial fun _ => trivial) fun ⟨_, _⟩ => ?_
      exact always_ite (fun _ => always_pure _) fun _ => always_pure _
    · exact mainCheckFresh_made S _ _ _ _ _ _ _

lemma changeInterfaceList_made (app : HsrModule) (ifName : CStr) (isAdd : Bool) :
    Always Act.MadeByDaemon (changeInterfaceList S app ifName isAdd) :=
  changeInterfaceList_always S fun _ _ => trivial

lemma hsrHandler_made (app : HsrModule) (key : Option CStr) (cdbData : Option HsrData) :
    Always Act.MadeByDaemon (hsrHandler S app key cdbData) := by
  unfold hsrHandler
  split
  · exact always_pure _
  · split
    · refine always_bind (changeInterfaceList_made S _ _ _) fun ⟨_, app⟩ => ?_
      dsimp only
      split
      · refine always_bind ?_ fun _ => always_pure _
        refine withDump_always S (fun _ => always_fail _) fun links => ?_
        refine always_bind (always_sys _) fun allocated => ?_
        exact always_ite (fun _ => always_pure _) fun _ => mainCheck_made S _ _ _ _ _ _
      · exact always_pure _
    · refine always_bind (deleteHsrInterfaceByName_always S fun _ _ _ => trivial) fun ret => ?_
      refine always_ite (fun _ => always_pure _) fun _ => ?_
      exact always_bind (changeInterfaceList_made S _ _ _) fun _ => always_pure _

/-- every create request of a step is one that the daemon builds for an HSR link -/
theorem step_made (app : HsrModule) (input : Input) :
    Always Act.MadeByDaemon (step S app input) := by
  cases input with
  | config key cdbData => exact always_bind (hsrHandler_made S _ _ _) fun _ => always_pure _
  | link cache note =>
    refine always_bind ?_ fun _ => always_pure _
    rw [routeLinkCacheChangeCb_eq]
    rcases react_tries S app.waitList (reaction cache note) with ⟨fault, hcrash⟩ | htries
    · rw [hcrash]
      exact always_fail fault
    · refine htries.holds (fun l => always_pure l) fun node edit => ?_
      intro w a ha
      rw [map_acts] at ha
      exact createHif_made S node w a ha

/-! ## the messages -/

/-- the link that the kernel reads of a create request is an HSR link with the name, the ports and
the version of the request; of a delete request it reads the index and the name of the link -/
def Act.Readable (mods : LinkModules) (nmSize : Nat) : Act → Prop
  | .linkAdd ifName request _ => 0 ∉ ifName →
    ∃ msg link', rtnlLinkBuildAddRequest .none nmSize request.full = .ok msg ∧
      linkMsgParse mods (msg.buf.drop NLMSG_HDRLEN) = .ok link' ∧ link'.isHsr = true ∧
      link'.lName = ifName.take (IFNAMSIZ - 1) ∧ link'.lInfo = request.lInfo
  | .linkDelete link _ => 0 ∉ link.lName → link.lName.length < IFNAMSIZ →
    ∃ msg link', rtnlLinkBuildDeleteRequest nmSize link.toRtnlLink = .ok msg ∧
      linkMsgParse mods (msg.buf.drop NLMSG_HDRLEN) = .ok link' ∧
      link'.lIndex = link.lIndex ∧ link'.lName = link.lName
  | _ => True

section
variable {ifName : CStr} {s1 s2 : UInt32} {version : UInt8} {mods : LinkModules}

lemma hsrRequest_has (bit : Mask) : (hsrRequest ifName s1 s2 version).full.has bit =
    ((LINK_ATTR_LINKINFO ||| LINK_ATTR_IFNAME) &&& bit != 0) := rfl

lemma hsrRequest_info_has (flag : BitVec 32) :
    (hsrRequest ifName s1 s2 version).full.info.has flag =
      ((0#32 ||| Nl.HSR_HAS_VERSION ||| Nl.HSR_HAS_SLAVE1_ID ||| Nl.HSR_HAS_SLAVE2_ID) &&& flag !=
        0) := rfl

lemma hsrAttrs_hsrRequest : hsrAttrs (hsrRequest ifName s1 s2 version).full.info =
    [⟨1, u32Bytes s1⟩, ⟨2, u32Bytes s2⟩, ⟨6, [version]⟩] := by
  simp +decide only [hsrAttrs, attrIf, hsrRequest_info_has]
  rfl

lemma fieldAttrs_hsrRequest : fieldAttrs linkFields (hsrRequest ifName s1 s2 version).full =
    [⟨3, putString (ifName.take (IFNAMSIZ - 1))⟩,
      ⟨NLA_F_NESTED ||| IFLA_LINKINFO, encodeAttrs [⟨IFLA_INFO_KIND, putString (cs "hsr")⟩,
        ⟨NLA_F_NESTED ||| IFLA_INFO_DATA,
          encodeAttrs [⟨1, u32Bytes s1⟩, ⟨2, u32Bytes s2⟩, ⟨6, [version]⟩]⟩]⟩] := by
  have hinfo : fieldAttrs linkInfoFields (hsrRequest ifName s1 s2 version).full =
      [⟨IFLA_INFO_KIND, putString (cs "hsr")⟩, ⟨NLA_F_NESTED ||| IFLA_INFO_DATA,
        encodeAttrs [⟨1, u32Bytes s1⟩, ⟨2, u32Bytes s2⟩, ⟨6, [version]⟩]⟩] := by
    have hhsr : (hsrRequest ifName s1 s2 version).full.isHsr = true := rfl
    simp +decide only [linkInfoFields, kindFields, kindField, infoDataField, slaveKindField,
      List.cons_append, List.nil_append, fieldAttrs_cons, linkField, hsrRequest_has, hhsr,
      hsrAttrs_hsrRequest, PutField.attr]
    rfl
  simp +decide only [linkFields, fillInfoFields, List.cons_append, List.nil_append, fieldAttrs_cons,
    linkField, groupField, linkInfoField, hsrRequest_has, PutField.attr, hinfo]
  rfl

lemma hsrRequest_room : requestRoom (hsrRequest ifName s1 s2 version).full ≤ 96 := by
  have hlen := List.length_take_le (IFNAMSIZ - 1) ifName
  have hname := @length_nameAttr (ifName.take (IFNAMSIZ - 1)) (by
    simp only [IFNAMSIZ] at hlen ⊢
    omega)
  rw [length_encodeAttrs_cons, length_encodeAttrs_nil] at hname
  rw [requestRoom, fieldAttrs_hsrRequest, length_encodeAttrs_cons]
  have hinfo : (encodeAttrs [⟨NLA_F_NESTED ||| IFLA_LINKINFO, encodeAttrs [
      ⟨IFLA_INFO_KIND, putString (cs "hsr")⟩, ⟨NLA_F_NESTED ||| IFLA_INFO_DATA,
        encodeAttrs [⟨1, u32Bytes s1⟩, ⟨2, u32Bytes s2⟩, ⟨6, [version]⟩]⟩]⟩]).length = 40 := by
    have hkind : (putString (cs "hsr")).length = 4 := by decide
    have hport (n : UInt32) : (u32Bytes n).length = 4 := rfl
    simp only [length_encodeAttrs_cons, length_encodeAttrs_nil, length_encode, Nlattr.totalLen,
      hkind, hport, List.length_singleton, NLA_HDRLEN, nlaAlign]
  omega

lemma hsrRequest_sendable (h : 0 ∉ ifName) : (hsrRequest ifName s1 s2 version).full.Sendable where
  family := show (0 : UInt32).toNat < 2 ^ 8 by decide
  name := by
    refine ⟨fun hmem => h (List.mem_of_mem_take hmem), ?_⟩
    have hlen := List.length_take_le (IFNAMSIZ - 1) ifName
    show (ifName.take (IFNAMSIZ - 1)).length < IFNAMSIZ
    simp only [IFNAMSIZ] at hlen ⊢
    omega
  ifalias := ⟨by rintro ⟨⟩, show 0 < IFALIASZ by decide⟩
  kind _ := ⟨cs "hsr", rfl, by decide⟩
  slaveKind := by rintro ⟨⟩
  addr := rfl
  bcast := rfl

lemma parsedInfo_hsrRequest :
    (parsedInfo (hsrRequest ifName s1 s2 version).full.info).toHsrInfo =
      (hsrRequest ifName s1 s2 version).lInfo := by
  have hmask : Nl.HSR_HAS_SLAVE1_ID ||| Nl.HSR_HAS_SLAVE2_ID ||| Nl.HSR_HAS_VERSION ||| 0 ||| 0 =
      0#32 ||| Nl.HSR_HAS_VERSION ||| Nl.HSR_HAS_SLAVE1_ID ||| Nl.HSR_HAS_SLAVE2_ID := by decide
  simp +decide only [parsedInfo, flagIf, hsrRequest_info_has, if_true, if_false, hmask]
  rfl

lemma linkAdd_readable {nmSize : Nat} (hsize : nmSize ≤ 2 ^ 16) (hroom : 96 ≤ nmSize) (ret : Int) :
    Act.Readable mods nmSize (.linkAdd ifName (hsrRequest ifName s1 s2 version) ret) := by
  intro hnul
  have hfits := @hsrRequest_room ifName s1 s2 version
  have hsendable := @hsrRequest_sendable ifName s1 s2 version hnul
  have hname : (hsrRequest ifName s1 s2 version).full.has LINK_ATTR_IFNAME = true := by
    rw [hsrRequest_has]
    decide
  have hkind : (hsrRequest ifName s1 s2 version).full.has LINK_ATTR_LINKINFO = true := by
    rw [hsrRequest_has]
    decide
  have hhsr : (hsrRequest ifName s1 s2 version).full.isHsr = true := rfl
  have hparse := @linkMsgParse_request _ mods (addHeader (hsrRequest ifName s1 s2 version).full)
    hsendable (by omega) hsendable.family (by show (0 : UInt32).toNat < 2 ^ 16; decide)
  have hsame := linkRead_parsed (hsrRequest ifName s1 s2 version).full
  rw [if_pos hname] at hparse
  refine ⟨_, _, buildLinkRequest_ok hsize (by omega), hparse, ?_, hsame.name, ?_⟩
  · rw [RtnlLink.isHsr, hsame.kind hkind]
    exact hhsr
  · have hinfo := congrArg FullHsrInfo.toHsrInfo (hsame.info hkind hhsr)
    rw [parsedInfo_hsrRequest] at hinfo
    exact hinfo

end

lemma linkDelete_readable {mods : LinkModules} {nmSize : Nat} (hroom : 52 ≤ nmSize)
    (link : LinkObj) (ret : Int) : Act.Readable mods nmSize (.linkDelete link ret) := by
  intro hnul hlen
  obtain ⟨link', hparse, hindex, hname, -⟩ := @deleteRequest_parsed link.toRtnlLink mods hnul hlen
  exact ⟨_, link', rtnlLinkBuildDeleteRequest_ok (link.has_attr (by decide)) hlen hroom, hparse,
    hindex, hname⟩

/-- **Every request of the daemon can be read**, along every run: in a message of at least 96 bytes
and at most 64 KiB it is built, and the parser of links finds in it what the daemon meant. -/
theorem requests_readable (mods : LinkModules) (w : W) (inputs : List Input) {nmSize : Nat}
    (hroom : 96 ≤ nmSize) (hsize : nmSize ≤ 2 ^ 16) :
    Along (step S) HsrModule.init w inputs fun h => ∀ a ∈ h.out.acts, a.Readable mods nmSize := by
  intro h hh a ha
  have hout := along_out (step S) HsrModule.init w inputs h hh
  rw [hout] at ha
  have hmade := step_made S h.pre h.input h.world a ha
  cases a with
  | linkAdd ifName request ret =>
    obtain ⟨s1, s2, version, rfl⟩ := hmade
    exact linkAdd_readable hsize hroom ret
  | linkDelete link ret => exact linkDelete_readable (by omega) link ret
  | _ => trivial

theorem requests_readable_page :
    Along (step (staticSys [etherLink 2 (cs "eth0") none 0 0, etherLink 3 (cs "eth1") none 0 0]))
      HsrModule.init ()
      [.config (some (cs "hsr0")) (some ⟨some (cs "eth0"), some (cs "eth1")⟩)]
      fun h => ∀ a ∈ h.out.acts, a.Readable .accepting 4096 :=
  requests_readable _ .accepting () _ (by decide) (by decide)

end Hsr
