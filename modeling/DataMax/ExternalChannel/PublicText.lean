import DataMax.Domain.Lines

/-! What an external channel shows of an internal text: internal names are replaced,
internal context is cut off or blocked. -/

namespace DataMax.ExternalChannel

open Domain

def publicReplyTextLimit : Nat := 6000
def publicStreamTextLimit : Nat := 1200

/-- Whole sentences and what is said instead. -/
def sentenceReplacements : List (String × String) := [
  ("已创建静态页草稿并提交 Image2 效果图队列；效果图无需客户确认，生成后会继续进入固定 Cloudflare Codex 发布链路。",
    "已创建报表页面草稿并进入生成队列；无需客户确认，生成后会自动发布页面链接。"),
  ("已创建静态页草稿并提交 Image2 效果图队列；固定发布链路当前未启用或未加入 allowlist。",
    "已创建报表页面草稿并进入生成队列；当前会按可用发布链路生成页面。"),
  ("已创建静态页草稿并提交 GPT-Image-2 效果图队列；效果图无需客户确认，生成后会继续进入 Image2 视觉合同发布链路，由 GPT-5.5/Codex 依据效果图生成最终动态网站。",
    "已创建报表页面草稿并进入生成队列；无需客户确认，生成后会自动发布最终动态页面。"),
  ("已创建静态页草稿并提交 GPT-Image-2 效果图队列；效果图无需客户确认，生成后会继续进入 Image2 视觉合同发布链路生成最终动态网站。",
    "已创建报表页面草稿并进入生成队列；无需客户确认，生成后会自动发布最终动态页面。"),
  ("DataMax 已先生成可发送的静态页链接；最终 Codex 页面仍在后台继续发布。",
    "DataMax 已先生成可发送的静态页链接；最终页面仍在后台继续优化发布。")]

def wordReplacements : List (String × String) := [
  ("GPT-Image-2", "页面生成"),
  ("Image2", "页面生成"),
  ("Cloudflare Codex", "DataMax 后台"),
  ("Cloudflare", "DataMax 后台"),
  ("Codex", "DataMax"),
  ("效果图", "可视化预览"),
  ("生图", "页面生成"),
  ("视觉合同", "页面生成")]

def replaceEach (replacements : List (String × String)) (text : String) : String :=
  replacements.foldl (fun value pair => replaceText pair.1 pair.2 value) text

/-- A text that starts like a link. -/
def looksLikeLink (text : String) : Bool :=
  ["http://", "https://", "/generated-artifacts/", "generated-artifacts/"].any (startsWith (trimStart text))

def externalChannelPublicText (text : String) : String :=
  if looksLikeLink text then text else replaceEach wordReplacements (replaceEach sentenceReplacements text)

def externalChannelPublicStatus (status : String) : String :=
  match trim status with
  | "static_page_image_preview_queued" => "static_page_generation_queued"
  | "static_page_effect_image_ready" => "static_page_preview_ready"
  | "static_page_image2_auto_publish_pending" => "static_page_generation_pending"
  | "static_page_image2_auto_publish_running" => "static_page_generation_running"
  | "static_page_image2_auto_publish_retrying" => "static_page_generation_retrying"
  | "static_page_image2_auto_publish_failed" => "static_page_generation_failed"
  | other => externalChannelPublicText other

def envelopeMarkers : List String := [
  "\x7b\"assistant_run_id\"",
  "\"assistant_run_id\"",
  "\x7b\"card\"",
  "\x7b\"conversation_external_id\"",
  "\"conversation_external_id\"",
  "\x7b\"data\":\x7b\"assistant_run_id\"",
  "\"idempotency_key\"",
  "\"poll_after_seconds\"",
  "\"status_url\""]

/-- Where the first envelope begins that one of the markers belongs to. -/
def envelopeStart (text : String) : Option Nat :=
  envelopeMarkers.foldl (fun cutAt marker =>
    match findText marker text with
    | some index =>
      let candidate := (rfindChar '\x7b' (takeText index text)).getD index
      some (match cutAt with
        | some current => min current candidate
        | none => candidate)
    | none => cutAt) none

def stripEmbeddedExternalChannelJsonEnvelope (text : String) : String :=
  let cleaned := match envelopeStart text with
    | none => text
    | some index => trim (takeText index text)
  joinLines ((lines cleaned).filter fun line =>
    !(["\x7b\"assistant_run_id\"", "\x7b\"card\"",
      "\x7b\"data\":\x7b\"assistant_run_id\""].any (startsWith (trimStart line))))

def generatedArtifactLink (line : String) : Option String :=
  ((words (trim line)).find? fun part => contains part "/generated-artifacts/" ||
    startsWith part "https://v3.elepcloud.com/generated-artifacts/").map
    (trimMatches [')', ']', '>', '。', '，', ',', ';', '；'].contains)

/-- Of the lines with the same link the first one stays. -/
def dedupeLinkLines (seenLinks : List String) : List String → List String
  | [] => []
  | line :: rest => match (generatedArtifactLink line).filter (· ≠ "") with
    | some link =>
      if seenLinks.contains link then dedupeLinkLines seenLinks rest
      else line :: dedupeLinkLines (link :: seenLinks) rest
    | none => line :: dedupeLinkLines seenLinks rest

def dedupePublicGeneratedArtifactLinksInText (text : String) : String :=
  joinLines (dedupeLinkLines [] (lines text))

/-- Of adjacent blank lines one stays. -/
def collapseBlankLines (blankSeen : Bool) : List String → List String
  | [] => []
  | line :: rest =>
    if trim (trimEnd line) = "" then
      if blankSeen then collapseBlankLines true rest else "" :: collapseBlankLines true rest
    else trimEnd line :: collapseBlankLines false rest

def collapsePublicTextSpacing (text : String) : String :=
  trim (joinLines (collapseBlankLines false (lines text)))

def externalChannelPublicReadableText (text : String) : String :=
  let value := replaceText "\\t" " " (replaceText "\\n" "\n" (replaceText "\\r\\n" "\n" (trim text)))
  collapsePublicTextSpacing (dedupePublicGeneratedArtifactLinksInText (stripEmbeddedExternalChannelJsonEnvelope value))

def truncateExternalChannelPublicText (text : String) (maxChars : Nat) : String :=
  if text.toList.length ≤ maxChars then text else takeText maxChars text ++ "..."

def contextMarkers : List String := ["供料证据", "启动简报", "当前选中范围", "范围候选", "本轮外部回答要求"]

def lowercaseContextMarkers : List String := ["supplied_items", "evidence_state", "runtime_manifest", "modelguidance",
  "data_snapshot", "module_bindings", "\"assistant_run_id\"", "\"conversation_external_id\"", "\"idempotency_key\"",
  "\"poll_after_seconds\"", "\"status_url\""]

def externalChannelTextLooksLikeInternalContextLeak (text : String) : Bool :=
  let trimmed := trimStart text
  contextMarkers.any (contains trimmed) || lowercaseContextMarkers.any (contains (asciiLower trimmed))

/-- The text that is shown, or the notice that blocks it. -/
def publicTextOr (notice : String) (limit : Nat) (text : String) : String :=
  let publicText := externalChannelPublicText text
  let value := externalChannelPublicReadableText publicText
  if trim value = "" ∧ externalChannelTextLooksLikeInternalContextLeak publicText then notice
  else if externalChannelTextLooksLikeInternalContextLeak value then notice
  else truncateExternalChannelPublicText value limit

def replyNotice : String :=
  "本轮回复包含内部处理上下文，DataMax 已拦截该部分。请继续提问或指定需要查看的结论，我会重新基于已授权资料回答。"

def streamNotice : String := "DataMax 正在处理，本轮内部上下文不会对外展示。"

def externalChannelPublicReplyText (text : String) : String := publicTextOr replyNotice publicReplyTextLimit text

def externalChannelPublicStreamText (text : String) : String := publicTextOr streamNotice publicStreamTextLimit text

end DataMax.ExternalChannel
