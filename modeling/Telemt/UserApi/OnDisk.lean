import Telemt.Config.SaveAccess
import Telemt.UserApi.Reload

namespace Telemt.UserApi
open Config Foundation ClientHello

/-!
# The content of the file and its text

`save_access_sections_to_disk` stands here on the tables of the file and in `Config` on its lines.
-/

def HexText.utf8 (text : HexText) : Text := UserApi.utf8 (String.ofList text.digits)

def Tabulates {α β : Type} (rows : Rows α) (value : α → β) (table : Dict Text β) : Prop :=
  (rows.rows.map fun row => (⟨utf8 (String.ofList row.1.name), value row.2⟩ : Sigma fun _ => β)).Perm
    table.entries

def Shows (content : AccessContent) (access : AccessConfig) : AccessSection → Prop
  | .users => Tabulates content.users HexText.utf8 access.users
  | .userEnabled => Tabulates content.userEnabled id access.userEnabled
  | .userAdTags => Tabulates content.userAdTags HexText.utf8 access.userAdTags
  | .userMaxTcpConns => Tabulates content.userMaxTcpConns id access.userMaxTcpConns
  | .userExpirations => Tabulates content.userExpirations id access.userExpirations
  | .userDataQuota => Tabulates content.userDataQuota id access.userDataQuota
  | .userRateLimits => Tabulates content.userRateLimits id access.userRateLimits
  | .userMaxUniqueIps => Tabulates content.userMaxUniqueIps id access.userMaxUniqueIps

variable {ν ω : Type} (format : TomlFormat ν ω)

/-- The statements of a text give every section the rows that the content has there. -/
def OnDisk (stmts : List (Stmt ν)) (access : AccessConfig) : Prop :=
  ∀ sect : AccessSection, ∃ content, Shows content access sect ∧
    (decodeTable format sect.path stmts).Perm (decoded format (content.cells sect))

variable {format} {sections : List AccessSection} {sect : AccessSection} {before stmts : List (Stmt ν)}

theorem Shows.congr {content : AccessContent} {access access' : AccessConfig}
    (same : SameAt access' access sect) (shown : Shows content access sect) :
    Shows content access' sect := by
  cases sect <;> rw [SameAt] at same <;> rw [Shows, same] <;> exact shown

theorem touching_outside (other : sect ∉ sections) (stmts : List (Stmt ν)) :
    touching sect (outside sections stmts) = touching sect stmts := by
  rw [touching, outside, List.filter_filter]
  apply List.filter_congr
  intro s _
  rw [Bool.eq_iff_iff, Bool.and_eq_true, decide_eq_true_iff, decide_eq_true_iff]
  refine and_iff_left_of_imp fun touches written member inside => ?_
  have same : written = sect := by
    rcases touches with within | ⟨_, leading⟩
    · exact section_unique inside within
    · exact section_unique (inside.trans leading) List.prefix_rfl
  exact other (same ▸ member)

/-- A save of the text that is read back as meant leaves it showing the content that the save of the
content leaves. -/
theorem saveAccessSectionsToDisk_onDisk {ο : Type} (around : Surroundings ο) {config : ProxyConfig}
    {call : Call} {file after : ConfigFile ο} {content : AccessContent}
    (change : Change file.access config.access sections)
    (accepted : saveAccessSectionsToDisk around config sections call file = .ok after)
    (shown : ∀ sect ∈ sections, Shows content config.access sect)
    (faithful : Faithful format content sections before stmts)
    (onDisk : OnDisk format before file.access) : OnDisk format stmts after.access := by
  obtain ⟨_, _, rfl⟩ := (saveAccessSectionsToDisk_eq_ok around).mp accepted
  dsimp only
  rw [foldl_replaceSection change.untouched change.cidrRateLimits change.window]
  intro sect
  by_cases written : sect ∈ sections
  · exact ⟨content, shown sect written, faithful.exact sect written⟩
  · obtain ⟨old, shownBefore, _⟩ := onDisk sect
    refine ⟨old, shownBefore.congr (change.untouched sect written), ?_⟩
    rwa [← decodeTable_touching, ← touching_outside written, faithful.unchanged, touching_outside written,
      decodeTable_touching]

end Telemt.UserApi
