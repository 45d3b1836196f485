import BeanMeter.Mapping.Builtin.Rule

/-! # Message brokers

Catalogs of message brokers and their clients. -/

namespace BeanMeter.Builtin

/-- Destinations and connections of a broker. -/
def activeMq : Catalog := ⟨[
  rule "org.apache.activemq:type=Broker,brokerName=*,destinationType=*,destinationName=*"
    "activemq." [("destination", .param "destinationName"), ("broker", .param "brokerName")] [
    upDownCounter "ProducerCount" "producer.count" (counted "producer")
      "The number of producers attached to this destination",
    upDownCounter "ConsumerCount" "consumer.count" (counted "consumer")
      "The number of consumers subscribed to this destination",
    gauge "MemoryPercentUsage" "memory.usage" "%" "The percentage of configured memory used",
    upDownCounter "QueueSize" "message.current" (counted "message")
      "The current number of messages waiting to be consumed",
    counter "ExpiredCount" "message.expired" (counted "message")
      "The total number of messages not delivered because they expired",
    counter "EnqueueCount" "message.enqueued" (counted "message")
      "The total number of messages received by the broker",
    counter "DequeueCount" "message.dequeued" (counted "message")
      "The total number of messages delivered to consumers",
    gauge "AverageEnqueueTime" "message.wait_time.avg" "ms"
      "The average time a message was held on this destination"],
  rule "org.apache.activemq:type=Broker,brokerName=*" "activemq."
    [("broker", .param "brokerName")] [
    upDownCounter "CurrentConnectionsCount" "connection.count" (counted "connection")
      "The total number of current connections",
    gauge "StorePercentUsage" "disk.store_usage" "%"
      "The percentage of configured disk used for persistent messages",
    gauge "TempPercentUsage" "disk.temp_usage" "%"
      "The percentage of configured disk used for non-persistent messages"]]⟩

/-- Topics, requests and partitions of a broker. -/
def kafka : Catalog := ⟨[
  rule "kafka.server:type=BrokerTopicMetrics,name=MessagesInPerSec" "kafka." [] [
    counter "Count" "message.count" (counted "message")
      "The number of messages received by the broker"],
  rule "kafka.server:type=BrokerTopicMetrics,name=BytesInPerSec" "kafka."
    [("direction", .const "in")] [
    counter "Count" "network.io.in" "By" "The bytes received by the broker"],
  rule "kafka.server:type=BrokerTopicMetrics,name=BytesOutPerSec" "kafka."
    [("direction", .const "out")] [
    counter "Count" "network.io.out" "By" "The bytes sent by the broker"],
  rule "kafka.network:type=RequestMetrics,name=RequestsPerSec,request=*" "kafka."
    [("type", .param "request")] [
    counter "Count" "request.count" (counted "request")
      "The number of requests received by the broker"],
  rule "kafka.server:type=ReplicaManager,name=PartitionCount" "kafka." [] [
    upDownCounter "Value" "partition.count" (counted "partition")
      "The number of partitions on the broker"],
  rule "kafka.server:type=ReplicaManager,name=UnderReplicatedPartitions" "kafka." [] [
    upDownCounter "Value" "partition.under_replicated" (counted "partition")
      "The number of under replicated partitions"],
  rule "kafka.controller:type=KafkaController,name=ActiveControllerCount" "kafka." [] [
    upDownCounter "Value" "controller.active.count" (counted "controller")
      "For KRaft mode, the number of active controllers in the cluster"]]⟩

/-- What a consumer fetches. -/
def kafkaConsumer : Catalog := ⟨[
  rule "kafka.consumer:type=consumer-fetch-manager-metrics,client-id=*" "kafka.consumer."
    [("client-id", .param "client-id")] [
    gauge "fetch-rate" "fetch-rate" (counted "fetch" ++ "/s")
      "The number of fetch requests for all topics per second",
    gauge "records-lag-max" "records-lag-max" (counted "record")
      "Number of messages the consumer lags behind the producer",
    gauge "bytes-consumed-rate" "total.bytes-consumed-rate" "By/s"
      "The average number of bytes consumed for all topics per second",
    gauge "records-consumed-rate" "total.records-consumed-rate" (counted "record" ++ "/s")
      "The average number of records consumed for all topics per second"],
  rule "kafka.consumer:type=consumer-fetch-manager-metrics,client-id=*,topic=*" "kafka.consumer."
    [("client-id", .param "client-id"), ("topic", .param "topic")] [
    gauge "bytes-consumed-rate" "bytes-consumed-rate" "By/s"
      "The average number of bytes consumed per second",
    gauge "records-consumed-rate" "records-consumed-rate" (counted "record" ++ "/s")
      "The average number of records consumed per second"]]⟩

/-- What a producer sends. -/
def kafkaProducer : Catalog := ⟨[
  rule "kafka.producer:type=producer-metrics,client-id=*" "kafka.producer."
    [("client-id", .param "client-id")] [
    gauge "io-wait-time-ns-avg" "io-wait-time-ns-avg" "ns"
      "The average length of time the I/O thread spent waiting for a socket",
    gauge "outgoing-byte-rate" "outgoing-byte-rate" "By/s"
      "The average number of outgoing bytes sent per second to all servers",
    gauge "request-latency-avg" "request-latency-avg" "ms" "The average request latency",
    gauge "request-rate" "request-rate" (counted "request" ++ "/s")
      "The average number of requests sent per second",
    gauge "response-rate" "response-rate" (counted "response" ++ "/s")
      "Responses received per second"],
  rule "kafka.producer:type=producer-topic-metrics,client-id=*,topic=*" "kafka.producer."
    [("client-id", .param "client-id"), ("topic", .param "topic")] [
    gauge "byte-rate" "byte-rate" "By/s" "The average number of bytes sent per second for a topic",
    gauge "compression-rate" "compression-rate" (counted "ratio")
      "The average compression rate of record batches for a topic",
    gauge "record-error-rate" "record-error-rate" (counted "record" ++ "/s")
      "The average per-second number of record sends that resulted in errors",
    gauge "record-retry-rate" "record-retry-rate" (counted "record" ++ "/s")
      "The average per-second number of retried record sends",
    gauge "record-send-rate" "record-send-rate" (counted "record" ++ "/s")
      "The average number of records sent per second"]]⟩

end BeanMeter.Builtin
