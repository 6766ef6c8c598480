import ModelProbe.Catalog
/-!
# The built-in catalog

The serving runtimes that need no catalog file. `$model_name` and `$query_text` stand for the
model and the query; `$query_input` is the query under the name that suits a raw payload.
-/

namespace ModelProbe

/-- The media type of JSON as a header line. -/
def jsonHeader : String := "Content-Type:application/json"

/-- The option that names the interface description of text generation. -/
def generationProto : Option String := some "proto=text-generation-inference/proto/generation.proto"

/-- The runtime `caikit-standalone-runtime`. -/
def caikitStandaloneRuntime : ServingRuntime where
  containers := ["kserve-container"]

/-- The runtime `caikit-standalone-runtime-grpc`. -/
def caikitStandaloneRuntimeGrpc : ServingRuntime where
  containers := ["kserve-container", "queue-proxy", "istio-proxy"]

/-- The runtime `caikit-tgis-runtime`. -/
def caikitTgisRuntime : ServingRuntime where
  defaultQuery := some {
    text := "At what temperature does liquid Nitrogen boil?"
    output := "74 degrees F"
    isPattern := false }
  inferenceTypes := .ofList [
    ("all-tokens", .ofList [
      (.http, {
        endpoint := "api/v1/task/text-generation"
        header := "Content-type:application/json"
        body := "\x7b\"model_id\": \"$model_name\",\"inputs\": \"$query_text\"\x7d"
        fields := .ofList [
          ("response", ""),
          ("response_text", "generated_text"),
          ("response_tokens", "generated_tokens")] }),
      (.grpc, {
        endpoint := "caikit.runtime.Nlp.NlpService/TextGenerationTaskPredict"
        header := "mm-model-id: $model_name"
        body := "\x7b\"text\": \"$query_text\"\x7d"
        fields := .ofList [
          ("response", ""),
          ("response_text", "generated_text"),
          ("response_tokens", "generated_tokens")] })]),
    ("streaming", .ofList [
      (.http, {
        endpoint := "api/v1/task/server-streaming-text-generation"
        header := "Content-type:application/json"
        body := "\x7b\"model_id\": \"$model_name\",\"inputs\": \"$query_text\"\x7d"
        fields := .ofList [("response", "")] }),
      (.grpc, {
        endpoint := "caikit.runtime.Nlp.NlpService/ServerStreamingTextGenerationTaskPredict"
        header := "mm-model-id: $model_name"
        body := "\x7b\"text\": \"$query_text\"\x7d"
        fields := .ofList [("response", "")] })])]

/-- The runtime `tensorflow-runtime`. -/
def tensorflowRuntime : ServingRuntime where
  defaultQuery := some {
    text := "@utilities/manifests/tensorflow/vehicle-detection-inputs.txt"
    output :=
      "\\\x7b\"model_name\":\"$\x7bmodel_name\x7d__isvc-920cbf97a5\",\"model_version\":\"1\",\"" ++
      "outputs\":\\[\\\x7b\"name\":\"InceptionResnetV2/AuxLogits/Logits/BiasAdd:0\",\"datatype" ++
      "\":\"FP32\",\"shape\":\\[1,1001\\],\"data\":\\[.*\\]\\\x7d\\]\\\x7d"
    isPattern := true }
  inferenceTypes := .ofList [
    ("infer", .ofList [
      (.http, {
        endpoint := "v2/models/$model_name/infer"
        header := "application/x-www-form-urlencoded"
        body := "$query_input"
        fields := .ofList [("response_output", "output")] })])]

/-- The runtime `tgis-runtime`. -/
def tgisRuntime : ServingRuntime where
  inferenceTypes := .ofList [
    ("all-tokens", .ofList [
      (.grpc, {
        endpoint := "fmaas.GenerationService/Generate"
        header := "mm-model-id: $model_name"
        body := "\x7b\"requests\": [\x7b\"text\":\"$query_text\"\x7d]\x7d"
        fields := .ofList [
          ("response", "responses"),
          ("response_text", "text"),
          ("response_tokens", "generatedTokenCount")]
        args := generationProto })]),
    ("model-info", .ofList [
      (.grpc, {
        endpoint := "fmaas.GenerationService/ModelInfo"
        header := ""
        body := "\x7b\"model_id\": \"$model_name\"\x7d"
        fields := .ofList [("response", "")]
        args := generationProto })]),
    ("streaming", .ofList [
      (.grpc, {
        endpoint := "fmaas.GenerationService/GenerateStream"
        header := "mm-model-id: $model_name"
        body := "\x7b\"request\": [\x7b\"text\":\"$query_text\"\x7d]\x7d"
        fields := .ofList [("response", "")]
        args := generationProto })]),
    ("tokenize", .ofList [
      (.grpc, {
        endpoint := "fmaas.GenerationService/Tokenize"
        header := "mm-model-id: $model_name"
        body := "\x7b\"requests\": [\x7b\"text\":\"$query_text\"\x7d], " ++
          "\"return_tokens\":\"true\"\x7d"
        fields := .ofList [("response", ""), ("response_text", ""), ("response_tokens", "")]
        args := generationProto })])]

/-- The runtime `vllm-runtime`. -/
def vllmRuntime : ServingRuntime where
  inferenceTypes := .ofList [
    ("chat-completions", .ofList [
      (.http, {
        endpoint := "v1/chat/completions"
        header := jsonHeader
        body := "\x7b\"model\": \"$model_name\",\"messages\": [$query_text]\x7d"
        fields := .ofList [
          ("completion_tokens", "completion_tokens"),
          ("response", "choices"),
          ("response_text", "content")] })]),
    ("completions", .ofList [
      (.http, {
        endpoint := "v1/completions"
        header := jsonHeader
        body := "\x7b\"model\": \"$model_name\",\"prompt\": \"$query_text\"\x7d"
        fields := .ofList [
          ("completion_tokens", "completion_tokens"),
          ("response", "choices"),
          ("response_text", "text")] })]),
    ("embeddings", .ofList [
      (.http, {
        endpoint := "v1/embeddings"
        header := jsonHeader
        body := "\x7b\"encoding_format\": \"float\", \"model\": \"$model_name\"," ++
          "\"input\": \"$\x7bquery_text\x7d\"\x7d"
        fields := .ofList [
          ("completion_tokens", "completion_tokens"),
          ("response", "data"),
          ("response_text", "embedding")] })])]

/-- The catalog of the runtimes that are always known. -/
def Catalog.builtin : Catalog where
  runtimes := .ofList [
    ("caikit-standalone-runtime", caikitStandaloneRuntime),
    ("caikit-standalone-runtime-grpc", caikitStandaloneRuntimeGrpc),
    ("caikit-tgis-runtime", caikitTgisRuntime),
    ("tensorflow-runtime", tensorflowRuntime),
    ("tgis-runtime", tgisRuntime),
    ("vllm-runtime", vllmRuntime)]

end ModelProbe
