import DataMax.SemanticLabel.Classification

/-! What is shown for a label or a technical name: its business part, or an alias
that was reviewed. -/

namespace DataMax.SemanticLabel

open Domain

/-- With the lower-case form of a character, which may be several. -/
structure TextTables extends CharClasses where
  toLowercase : Char → List Char

/-- The tables say of ASCII characters what the ASCII functions say. -/
structure TextTables.AgreesOnAscii (tables : TextTables) : Prop where
  alphanumeric : ∀ character : Char, character.toNat < 0x80 → tables.isAlphanumeric character = character.isAlphanum
  lowercase : ∀ character : Char, character.toNat < 0x80 → tables.toLowercase character = [character.toLower]

/-- Only the Han characters of a Chinese label are shown. -/
def safeSemanticBusinessLabel (classes : CharClasses) (value : String) : Option String :=
  let quality := classifySemanticPrimaryLabel classes value
  if !quality.businessLabel then none
  else if !quality.chineseBusinessLabel then some (trim value)
  else
    -- The counting word after a number is a Han character: it goes with the number.
    let projected := dropCounted value.toList
    if 2 ≤ projected.length then some (.ofList projected) else none
where
  dropCounted : List Char → List Char
    | [] => []
    | character :: rest =>
      if isHanCharacter character then character :: dropCounted rest
      else if character.isDigit then dropNumber rest
      else dropCounted rest
  dropNumber : List Char → List Char
    | [] => []
    | character :: rest =>
      if character.isDigit then dropNumber rest
      else if character = '个' then dropCounted rest
      else if isHanCharacter character then character :: dropCounted rest
      else dropCounted rest

section Aliases

variable (tables : TextTables)

def labelStep (state : List Char × Bool) (character : Char) : List Char × Bool :=
  let (output, previousLowerOrDigit) := state
  if character ∈ ['_', '-', '.', '/', '\\'] then
    (if output.getLast? ≠ some ' ' ∧ output ≠ [] then output ++ [' '] else output, false)
  else
    let separated := if character.isUpper && previousLowerOrDigit && output.getLast? ≠ some ' ' then output ++ [' ']
      else output
    (separated ++ tables.toLowercase character, character.isLower || character.isDigit)

def deterministicFieldLabel (raw : String) : String :=
  " ".intercalate (words (.ofList ((trim raw).toList.foldl (labelStep tables) ([], false)).1))

def fieldAliases : List (String × String) := [
  ("object type", "对象类型"),
  ("origin id", "来源记录标识"),
  ("zlqj s", "租赁期间开始"),
  ("zlqj e", "租赁期间结束"),
  ("business date", "业务日期"),
  ("sales amount", "销售金额"),
  ("store id", "门店标识"),
  ("visitor count", "客流数量")]

def reviewedSemanticFieldAlias (raw : String) : Option String :=
  fieldAliases.lookup (deterministicFieldLabel tables raw)

def mallDeliveryFieldAliases : List (String × String) := [
  ("traffic in", "进入人次"),
  ("traffic out", "离开人次"),
  ("visitors", "去重到访人数"),
  ("average stay", "平均停留时长"),
  ("day", "业务日期"),
  ("date", "业务日期"),
  ("hour", "小时"),
  ("minute", "分钟"),
  ("interval", "统计粒度"),
  ("mall id", "商场标识"),
  ("source mall id", "接口商场标识"),
  ("entity type", "空间实体类型"),
  ("entity type name", "空间实体类型名称"),
  ("entity name", "点位名称"),
  ("entity id", "点位标识"),
  ("aibee entity id", "来源点位标识"),
  ("floor", "楼层编码"),
  ("floor name", "楼层名称"),
  ("area", "区域"),
  ("l1 retail format", "一级业态"),
  ("l2 retail format", "二级业态"),
  ("entity status", "点位状态"),
  ("record count", "画像记录数"),
  ("unique pid count", "日内去重画像数"),
  ("unique person id count", "日内去重画像数"),
  ("duplicate record count", "重复记录数"),
  ("missing pid count", "缺失标识记录数"),
  ("missing person id count", "缺失标识记录数"),
  ("date mismatch count", "日期不一致记录数"),
  ("invalid age count", "无效年龄记录数"),
  ("age bucket", "年龄段"),
  ("age", "年龄"),
  ("gender", "性别"),
  ("group type", "同行关系类型"),
  ("share", "结构占比"),
  ("count", "分类记录数")]

def reviewedMallDeliveryFieldAlias (raw : String) : Option String :=
  mallDeliveryFieldAliases.lookup (deterministicFieldLabel tables raw)

def objectAliases : List (String × String) := [
  ("traffic_hourly", "小时客流明细"),
  ("point_inventory", "空间点位目录"),
  ("daily_summary", "画像每日汇总"),
  ("age_distribution_daily", "每日年龄分布"),
  ("age_distribution_total", "全期年龄分布"),
  ("gender_distribution_daily", "每日性别分布"),
  ("gender_distribution_total", "全期性别分布"),
  ("group_type_distribution_daily", "每日同行关系分布"),
  ("group_type_distribution_total", "全期同行关系分布"),
  ("validation", "数据质量校验"),
  ("schema", "数据字典"),
  ("manifest", "数据交付清单"),
  ("readme", "数据集说明")]

/-- `rsplit(['/', '\\']).next()` -/
def afterLastSlash (text : String) : String :=
  .ofList (text.toList.reverse.takeWhile fun character => character ≠ '/' && character ≠ '\\').reverse

def stripSuffix (text ending : String) : Option String :=
  if endsWith text ending then some (.ofList (text.toList.take (text.toList.length - ending.toList.length))) else none

def reviewedSemanticObjectAlias (raw : String) : Option String :=
  let fileName := asciiLower (afterLastSlash (trim raw))
  let stem := ([".tar.gz", ".xlsx", ".xlsm", ".xls", ".csv", ".json", ".md", ".txt"].findSome?
    (stripSuffix fileName)).getD fileName
  objectAliases.lookup stem

/-- The labels that an alias can have. -/
def aliasLabels : List String := (fieldAliases ++ mallDeliveryFieldAliases ++ objectAliases).map (·.2)

theorem mem_of_lookup {entries : List (String × String)} {key label : String} (found : entries.lookup key = some label) :
    label ∈ entries.map (·.2) := by
  induction entries with
  | nil => cases found
  | cons entry rest ih =>
    rw [List.lookup_cons] at found
    split at found
    · exact List.mem_cons.mpr (.inl (Option.some.inj found).symm)
    · exact List.mem_cons_of_mem _ (ih found)

variable {tables} {raw label : String}

theorem reviewedSemanticFieldAlias_mem (found : reviewedSemanticFieldAlias tables raw = some label) :
    label ∈ aliasLabels := by
  simp [aliasLabels, mem_of_lookup found]

theorem reviewedMallDeliveryFieldAlias_mem (found : reviewedMallDeliveryFieldAlias tables raw = some label) :
    label ∈ aliasLabels := by
  simp [aliasLabels, mem_of_lookup found]

theorem reviewedSemanticObjectAlias_mem (found : reviewedSemanticObjectAlias raw = some label) :
    label ∈ aliasLabels := by
  simp [aliasLabels, mem_of_lookup found]

end Aliases

end DataMax.SemanticLabel
