import DataMax.SemanticLink.Privacy

/-! The business concepts of a mall delivery, read off the names and labels of its fields. -/

namespace DataMax.SemanticLink

open Domain SemanticLabel SemanticUnderstanding

inductive MallBusinessConcept where
  | time
  | space
  | trafficMetric
  | visitorProfile
  | dataQuality
  | privacyBoundary
  | retailFormat
  | statisticalGrain
  | statisticalScale
  deriving DecidableEq

inductive ReviewedMallDeliveryRole where
  | traffic
  | profile
  deriving DecidableEq

namespace MallBusinessConcept

/-- In the order of their declaration. -/
def all : List MallBusinessConcept := [.time, .space, .trafficMetric, .visitorProfile, .dataQuality, .privacyBoundary,
  .retailFormat, .statisticalGrain, .statisticalScale]

def key : MallBusinessConcept → String
  | .time => "business-time"
  | .space => "mall-space"
  | .trafficMetric => "traffic-metric"
  | .visitorProfile => "visitor-profile"
  | .dataQuality => "data-quality"
  | .privacyBoundary => "privacy-boundary"
  | .retailFormat => "retail-format"
  | .statisticalGrain => "statistical-grain"
  | .statisticalScale => "statistical-scale"

def label : MallBusinessConcept → String
  | .time => "时间维度"
  | .space => "空间点位"
  | .trafficMetric => "客流指标"
  | .visitorProfile => "人群画像"
  | .dataQuality => "数据质量"
  | .privacyBoundary => "隐私边界"
  | .retailFormat => "业态分类"
  | .statisticalGrain => "统计粒度"
  | .statisticalScale => "统计规模"

def localNodeId (concept : MallBusinessConcept) : String := "concept:" ++ concept.key

end MallBusinessConcept

variable (tables : TextTables)

def normalizedSemanticSignal (value : String) : String :=
  .ofList ((value.toList.filter tables.isAlphanumeric).flatMap tables.toLowercase)

def approvedPersonIdentifierAggregate (value : String) : Bool :=
  normalizedSemanticSignal tables value ∈
    ["uniquepidcount", "uniquepersonidcount", "missingpidcount", "missingpersonidcount"]

def semanticFieldIsDirectPersonIdentifier (field : SemanticField) : Bool :=
  [field.technicalName, field.label].any fun value =>
    !approvedPersonIdentifierAggregate tables value && containsDirectPersonIdentifierMarker value

def reviewedMallDeliveryRole (snapshot : DatasetSemanticUnderstanding) : Option ReviewedMallDeliveryRole :=
  let signals := snapshot.fields.flatMap fun field =>
    [normalizedSemanticSignal tables field.technicalName, normalizedSemanticSignal tables field.label]
  let markerCount := fun markers : List String =>
    (markers.filter fun marker => signals.any (contains · marker)).length
  let titleSignal := normalizedSemanticSignal tables snapshot.dataset.title
  let titleHint := containsAny titleSignal ["客流", "商场", "mall", "aibee"]
  let deliveryObjectHint := snapshot.objects.any fun object =>
    containsAny (normalizedSemanticSignal tables object.technicalName ++ " " ++
      normalizedSemanticSignal tables object.label) ["traffichourly", "pointinventory", "agedistribution",
      "genderdistribution", "grouptypedistribution", "dailysummary"]
  let structuredTrafficSignature := 2 ≤ markerCount ["trafficin", "trafficout", "visitors", "averagestay"]
  let proseTrafficSignature := 3 ≤ markerCount ["客流", "小时", "点位", "停留", "去重人数"] &&
    markerCount ["小时"] == 1 && markerCount ["点位"] == 1
  let profileMarkerCount := markerCount ["agebucket", "gender", "grouptype", "uniquepidcount", "uniquepersonidcount"]
  let profileStrongMarker := ["grouptype", "uniquepidcount", "uniquepersonidcount"].any fun marker =>
    signals.any (contains · marker)
  let structuredProfileSignature := profileStrongMarker && 2 ≤ profileMarkerCount
  let proseProfileSignature := contains titleSignal "画像" &&
    1 ≤ markerCount ["记录数", "分类数量", "质量检查", "去重数", "年龄", "性别", "同行"]
  if !(titleHint || deliveryObjectHint) then none
  else if structuredProfileSignature || proseProfileSignature then some .profile
  else if structuredTrafficSignature || proseTrafficSignature then some .traffic
  else none

/-- The concepts that a field expresses, in the order of their declaration. -/
def semanticFieldBusinessConcepts (role : Option ReviewedMallDeliveryRole) (field : SemanticField) :
    List MallBusinessConcept :=
  match role with
  | none => []
  | some deliveryRole =>
    if semanticFieldIsDirectPersonIdentifier tables field then []
    else
      let technical := normalizedSemanticSignal tables field.technicalName
      let label := normalizedSemanticSignal tables field.label
      let signal := technical ++ " " ++ label
      let holdsAny := containsAny signal
      let equalsAny := fun needles : List String => needles.any fun needle => technical == needle || label == needle
      let quality := holdsAny ["duplicate", "missing", "mismatch", "invalid", "quality", "validation", "error", "重复",
        "缺失", "不一致", "无效", "质量", "校验", "异常"]
      let expressed := fun concept : MallBusinessConcept => match concept with
        | .time => !quality && holdsAny ["businessdate", "timestamp", "datetime", "date", "day", "hour", "minute",
            "日期", "时间", "小时", "分钟", "逐日", "当日", "同日"]
        | .space => holdsAny ["sourcemallid", "mallid", "entityid", "entityname", "entitytype", "floor", "area",
            "location", "region", "store", "gate", "passage", "商场", "点位", "空间", "楼层", "区域", "门店", "出入口",
            "通道"]
        | .trafficMetric => holdsAny ["trafficin", "trafficout", "visitors", "visitorcount", "averagestay",
            "进入人次", "离开人次", "去重到访", "平均停留", "客流数量"] ||
            (deliveryRole == .traffic && holdsAny ["客流"] && !holdsAny ["画像"])
        | .visitorProfile => equalsAny ["agebucket", "age", "年龄段", "年龄"] ||
            holdsAny ["gender", "grouptype", "share", "uniquepidcount", "uniquepersonidcount", "年龄段", "年龄", "性别",
              "同行关系", "结构占比", "人群画像"] ||
            (deliveryRole == .profile && holdsAny ["客流画像", "画像", "分类数量", "去重数"])
        | .dataQuality => quality
        | .privacyBoundary => holdsAny ["uniquepidcount", "uniquepersonidcount", "日内去重画像数"] ||
            (deliveryRole == .profile && holdsAny ["当日去重数"])
        | .retailFormat => holdsAny ["l1retailformat", "l2retailformat", "一级业态", "二级业态"]
        | .statisticalGrain => holdsAny ["interval", "grain", "hour", "minute", "统计粒度", "小时", "分钟"]
        | .statisticalScale => holdsAny ["recordcount", "visitorcount", "uniquepidcount", "uniquepersonidcount",
            "count", "share", "trafficin", "trafficout", "visitors", "记录数", "人次", "人数", "占比", "数量", "去重数"]
      MallBusinessConcept.all.filter expressed

def snapshotsAreTemporallyComplementary (left right : List MallBusinessConcept) : Bool :=
  left.contains .time && right.contains .time &&
    ((left.contains .trafficMetric && right.contains .visitorProfile) ||
      (right.contains .trafficMetric && left.contains .visitorProfile))

/-- A field that names a person expresses nothing. -/
theorem semanticFieldBusinessConcepts_hidden {field : SemanticField}
    (hidden : semanticFieldIsDirectPersonIdentifier tables field) (role : Option ReviewedMallDeliveryRole) :
    semanticFieldBusinessConcepts tables role field = [] := by
  cases role with
  | none => rfl
  | some deliveryRole => exact if_pos hidden

end DataMax.SemanticLink
